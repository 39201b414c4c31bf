import Redraft.Stop.Buffer

namespace Redraft.Stop

inductive CopyEnd where
  /-- All lines were read. -/
  | endOfInput
  | stopped (stop : List Char)
  /-- A line was read that is not text. -/
  | invalidLine
deriving DecidableEq, Repr

structure Copy where
  written : List Char
  ending : CopyEnd
  /-- How often a line was asked for. -/
  asked : Nat
deriving DecidableEq, Repr

namespace Buffer

/-- Copies one line. Answers what is written and, unless the copy ends, the buffer. -/
def copyLine (buffer : Buffer) (line : Option (List Char)) : List Char × Except CopyEnd Buffer :=
  match line with
  | none => ([], .error .invalidLine)
  | some line =>
    let (released, buffer) := buffer.push line
    (released.flatten,
      match buffer.stop with
      | some stop => .error (.stopped stop)
      | none => .ok buffer)

def copyRest (buffer : Buffer) : List Char := buffer.finish.1.getD []

def copy (buffer : Buffer) : (lines : List (Option (List Char))) → Copy
  | [] => ⟨buffer.copyRest, .endOfInput, 1⟩
  | line :: lines =>
    match buffer.copyLine line with
    | (written, .error ending) => ⟨written, ending, 1⟩
    | (written, .ok buffer) =>
      let copied := buffer.copy lines
      { copied with written := written ++ copied.written, asked := copied.asked + 1 }

end Buffer

def copy (sequences : List Sequence) (lines : List (Option (List Char))) : Copy :=
  (Buffer.new sequences).copy lines

end Redraft.Stop
