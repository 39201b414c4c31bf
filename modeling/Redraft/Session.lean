import Redraft.Matcher

namespace Redraft

abbrev RequestId := String

inductive SessionError where
  | alreadyExists (id : RequestId)
  | notFound (id : RequestId)
  | sequenceRewound (id : RequestId) (stored received : Nat)
  | poisoned (id : RequestId)
deriving DecidableEq, Repr

def SessionError.message : SessionError → String
  | alreadyExists id => "session " ++ id ++ " already exists"
  | notFound id => "session " ++ id ++ " not found"
  | sequenceRewound id stored received =>
    "generated sequence of session " ++ id ++
      s!" was rewound: {stored} tokens stored, received {received} that do not extend them"
  | poisoned id => "session " ++ id ++ " was dropped after a matcher panic"

structure Session where
  id : RequestId
  reference : Tokens
  generated : Tokens := []
  matcher : Matcher
  /-- How many sessions were created before this one. -/
  number : Nat

namespace Session

def start (id : RequestId) (reference : Tokens) (backend : Backend)
    (settings : MatchSettings) (number : Nat) : Session :=
  { id, reference, matcher := .build backend reference settings, number }

/-- Whether an output goes on from the stored one, as far as its length and the last stored
token tell. -/
def isExtendedBy (session : Session) (generated : Tokens) : Bool :=
  match session.generated.length with
  | 0 => true
  | last + 1 => last < generated.length && generated[last]? == session.generated[last]?

def nextChunk (session : Session) (generated : Tokens) (maxLength : Nat) :
    Except SessionError Tokens × Session :=
  if session.isExtendedBy generated then
    let generated := session.generated ++ generated.drop session.generated.length
    let (chunk, matcher) := session.matcher.nextChunk generated maxLength
    (.ok chunk, { session with generated, matcher })
  else
    (.error (.sequenceRewound session.id session.generated.length generated.length), session)

def restart (session : Session) : Session :=
  { session with generated := [], matcher := session.matcher.reset }

@[simp] theorem generated_start (id : RequestId) (reference : Tokens) (backend : Backend)
    (settings : MatchSettings) (number : Nat) :
    (start id reference backend settings number).generated = [] := rfl

@[simp] theorem generated_restart (session : Session) : session.restart.generated = [] := rfl

@[simp] theorem reference_restart (session : Session) :
    session.restart.reference = session.reference := rfl

end Session

end Redraft
