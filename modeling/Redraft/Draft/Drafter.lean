import Redraft.Session

namespace Redraft.Draft

structure Drafter (σ : Type) where
  name : String
  start : σ → RequestId → Tokens → Except SessionError Unit × σ
  /-- The draft for a context and the output in it. Without a request only the fallback is
  asked. -/
  propose : σ → Option RequestId → Tokens → Tokens → Tokens × σ
  finish : σ → RequestId → σ

def answerAll {σ α β : Type} (answer : σ → α → β × σ) : σ → List α → List β × σ
  | state, [] => ([], state)
  | state, question :: questions =>
    let (first, state) := answer state question
    let (rest, state) := answerAll answer state questions
    (first :: rest, state)

@[simp] theorem answerAll_nil {σ α β : Type} (answer : σ → α → β × σ) (state : σ) :
    answerAll answer state [] = ([], state) := rfl

theorem answerAll_cons {σ α β : Type} (answer : σ → α → β × σ) (state : σ) (question : α)
    (questions : List α) :
    answerAll answer state (question :: questions) =
      ((answer state question).1 :: (answerAll answer (answer state question).2 questions).1,
        (answerAll answer (answer state question).2 questions).2) := rfl

@[simp] theorem length_answerAll {σ α β : Type} (answer : σ → α → β × σ) (state : σ)
    (questions : List α) : (answerAll answer state questions).1.length = questions.length := by
  induction questions generalizing state with
  | nil => rfl
  | cons question questions ih => simp [answerAll, ih]

end Redraft.Draft
