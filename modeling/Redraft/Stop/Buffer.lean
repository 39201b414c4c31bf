import Redraft.Stop.Classify

/-!
Text on its way to a reader. It arrives in fragments and is looked at one character at a
time. Only the end that could still grow into a stop sequence is held back; all in front of
it is released. A complete stop sequence ends the text.
-/

namespace Redraft.Stop

structure Buffer where
  sequences : List Sequence
  /-- The text held back. -/
  pending : List Char := []
  /-- The stop sequence that ended the text. -/
  stop : Option (List Char) := none
  finished : Bool := false

namespace Buffer

def new (sequences : List Sequence) : Buffer := { sequences }

def isStopped (buffer : Buffer) : Bool := buffer.stop.isSome

def isDone (buffer : Buffer) : Bool := buffer.finished || buffer.isStopped

/-- Adds a character to the text held back. Answers what is released by it. -/
def pushChar (buffer : Buffer) (c : Char) : List (List Char) × Buffer :=
  let held := buffer.pending ++ [c]
  match classify buffer.sequences held with
  | .clear => ([held], { buffer with pending := [] })
  | .partialMatch =>
    let start := (hold? buffer.sequences held).getD 0
    if start = 0 then ([], { buffer with pending := held })
    else ([held.take start], { buffer with pending := held.drop start })
  | .whole stop =>
    ([held.take (held.length - stop.length)],
      { buffer with pending := [], stop := some stop })

/-- Adds a fragment. What comes behind a stop, or after the end, is ignored. -/
def push (buffer : Buffer) : (fragment : List Char) → List (List Char) × Buffer
  | [] => ([], buffer)
  | c :: fragment =>
    if buffer.isDone then ([], buffer)
    else
      let (first, buffer) := buffer.pushChar c
      let (rest, buffer) := buffer.push fragment
      (first ++ rest, buffer)

def finish (buffer : Buffer) : Option (List Char) × Buffer :=
  if buffer.isDone then (none, buffer)
  else
    (if buffer.pending.isEmpty then none else some buffer.pending,
      { buffer with pending := [], finished := true })

@[simp] theorem push_nil (buffer : Buffer) : buffer.push [] = ([], buffer) := rfl

theorem push_cons (buffer : Buffer) (c : Char) (fragment : List Char) :
    buffer.push (c :: fragment) =
      if buffer.isDone then ([], buffer)
      else
        ((buffer.pushChar c).1 ++ ((buffer.pushChar c).2.push fragment).1,
          ((buffer.pushChar c).2.push fragment).2) := rfl

theorem push_of_isDone {buffer : Buffer} (h : buffer.isDone = true) (fragment : List Char) :
    buffer.push fragment = ([], buffer) := by
  cases fragment <;> simp [push_cons, h]

/-- How a text is cut into fragments does not matter. -/
theorem push_append (buffer : Buffer) (first second : List Char) :
    buffer.push (first ++ second) =
      ((buffer.push first).1 ++ ((buffer.push first).2.push second).1,
        ((buffer.push first).2.push second).2) := by
  induction first generalizing buffer with
  | nil => rfl
  | cons c first ih =>
    by_cases h : buffer.isDone = true
    · simp [push_of_isDone h]
    · simp [push_cons, h, ih]

theorem finish_of_isDone {buffer : Buffer} (h : buffer.isDone = true) :
    buffer.finish = (none, buffer) := by
  simp [finish, h]

end Buffer

end Redraft.Stop
