import Redraft.Draft.Proposer
import Redraft.Proofs.Registry.Sessions

namespace Redraft

namespace Session

variable {backend : Backend} {matching : MatchSettings} {session : Session} {output : Tokens}

def draft (session : Session) (output : Tokens) (limit : Nat) : Tokens × Session :=
  let ready := if session.isExtendedBy output then session else session.restart
  let (chunk, matcher) := ready.matcher.nextChunk (session.recorded output) limit
  (chunk, { session with generated := session.recorded output, matcher })

theorem id_draft (session : Session) (output : Tokens) (limit : Nat) :
    (session.draft output limit).2.id = session.id := rfl

theorem nextChunk_eq_draft (hextends : session.isExtendedBy output = true) (limit : Nat) :
    session.nextChunk output limit =
      (.ok (session.draft output limit).1, (session.draft output limit).2) := by
  rw [nextChunk, draft, recorded, if_pos hextends, if_pos hextends, if_pos hextends]

theorem nextChunk_restart_eq_draft (hrewound : session.isExtendedBy output = false) (limit : Nat) :
    session.restart.nextChunk output limit =
      (.ok (session.draft output limit).1, (session.draft output limit).2) := by
  rw [nextChunk_eq_draft (session.isExtendedBy_restart output), draft, draft, recorded_restart,
    recorded, hrewound]
  rfl

/-- The draft is what any new matcher drafts for what the session has recorded. -/
theorem Good.draft (good : session.Good backend matching) (output : Tokens) (limit : Nat) :
    (session.draft output limit).1 =
        backend.chunk session.reference matching (session.recorded output) limit ∧
      (session.draft output limit).2.Good backend matching := by
  have hready : Matcher.Good session.reference matching backend
      (if session.isExtendedBy output then session else session.restart).matcher := by
    split
    · exact good
    · exact good.restart
  exact Matcher.Good.nextChunk hready (session.recorded output) limit

end Session

theorem Registry.retry_of_rewound {registry : Registry} {id : RequestId} {session : Session}
    {output : Tokens} (hsession : registry.session? id = some session)
    (hrewound : session.isExtendedBy output = false) (limit : Nat) :
    let refused := registry.nextChunk id output limit
    let restarted := registry.leave id session.restart
    refused.1 = .error
        (.sequenceRewound session.id session.generated.length output.length) ∧
      refused.2.recreate id = (.ok (), restarted) ∧
      restarted.nextChunk id output limit =
        (.ok (session.draft output limit).1,
          registry.leave id (session.draft output limit).2) := by
  have hkept := session?_leave hsession session
  have hrestarted := session?_leave hsession session.restart
  dsimp only
  rw [nextChunk_eq_leave hsession, nextChunk_eq_leave hrestarted,
    Session.nextChunk_of_rewound hrewound, Session.nextChunk_restart_eq_draft hrewound,
    recreate_eq_leave hkept, leave_leave, leave_leave]
  exact ⟨rfl, rfl, rfl⟩

namespace Draft

namespace Proposer

variable {μ : Type} {backend : Backend} {matching : MatchSettings} {proposer : Proposer μ}
  {id : RequestId} {output : Tokens} {limit : Nat}

theorem referenceChunk_of_rewound {holder : RequestId} {stored received : Nat}
    {sessions : Registry}
    (hrewound : (proposer.sessions.nextChunk id output limit).1 =
      .error (.sequenceRewound holder stored received))
    (hrecreate : (proposer.sessions.nextChunk id output limit).2.recreate id =
      (.ok (), sessions)) :
    proposer.referenceChunk id output limit =
      ((sessions.nextChunk id output limit).1.toOption,
        { proposer with sessions := (sessions.nextChunk id output limit).2 }) := by
  have hnext : proposer.sessions.nextChunk id output limit =
      (.error (.sequenceRewound holder stored received),
        (proposer.sessions.nextChunk id output limit).2) := Prod.ext hrewound rfl
  rw [referenceChunk, hnext]
  dsimp only
  rw [hrecreate]

/-- A reference draft uses the session of its request once. -/
theorem referenceChunk_eq (proposer : Proposer μ) (id : RequestId) (output : Tokens)
    (limit : Nat) :
    let used := proposer.sessions.useSession id (·.draft output limit)
    proposer.referenceChunk id output limit =
      (used.1.toOption, { proposer with sessions := used.2 }) := by
  dsimp only
  cases hsession : proposer.sessions.session? id with
  | none =>
      obtain ⟨error, after, hother, huse⟩ := Registry.useSession_of_no_session hsession
      have hnext : proposer.sessions.nextChunk id output limit = (.error error, after) := by
        rw [Registry.nextChunk_eq, huse]
        rfl
      rw [referenceChunk, hnext, huse]
      cases error with
      | sequenceRewound holder stored received => exact absurd rfl (hother _ _ _)
      | _ => rfl
  | some session =>
      rw [Registry.useSession_eq_leave hsession]
      cases hextends : session.isExtendedBy output with
      | true =>
          rw [referenceChunk, Registry.nextChunk_eq_leave hsession,
            Session.nextChunk_eq_draft hextends]
          rfl
      | false =>
          obtain ⟨hrefused, hagain, hretried⟩ :=
            Registry.retry_of_rewound hsession hextends limit
          rw [referenceChunk_of_rewound hrefused hagain, hretried]

theorem referenceChunk_of_session? {session : Session}
    (hsession : proposer.sessions.session? id = some session)
    (good : session.Good backend matching) (output : Tokens) (limit : Nat) :
    (proposer.referenceChunk id output limit).1 =
        some (backend.chunk session.reference matching (session.recorded output) limit) ∧
      ∃ later, (proposer.referenceChunk id output limit).2.sessions.session? id = some later ∧
        later.reference = session.reference ∧ later.generated = session.recorded output := by
  rw [referenceChunk_eq, Registry.useSession_eq_leave hsession]
  exact ⟨congrArg some (good.draft output limit).1, _, Registry.session?_leave hsession _, rfl,
    rfl⟩

end Proposer

end Draft

end Redraft
