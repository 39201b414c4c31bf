import Redraft.Json.Parser
import Redraft.Replay.Case
import Redraft.Text.Blank
import Redraft.Text.Lines

namespace Redraft.Replay

open Json

def tokenLimit : Nat := UInt32.size

def tokens? : Value → Option Tokens := Value.list? (Value.nat? tokenLimit)

def prompt? : Value → Option (Option Tokens)
  | .null => some none
  | value => (tokens? value).map some

def Case.ofJson? (value : Value) : Option Case := do
  let [some id, some reference, some output, prompt] ←
    value.record? ["id", "reference", "output", "prompt"] | none
  pure
    { id := ← id.text?
      reference := ← tokens? reference
      output := ← tokens? output
      prompt := ← Value.orDefault prompt? none prompt }

def Case.parse? (text : List Char) : Option Case := Value.parse? text >>= ofJson?

/-- Why a file holds no cases. Lines are numbered from one. -/
inductive CaseFileError where
  | malformedArray
  | malformedLine (number : Nat)
deriving DecidableEq, Repr

def casesOfLines (number : Nat) : List (List Char) → Except CaseFileError (List Case)
  | [] => .ok []
  | line :: lines =>
    if line.all Text.isBlank then casesOfLines (number + 1) lines
    else
      match Case.parse? line with
      | none => .error (.malformedLine number)
      | some case => (casesOfLines (number + 1) lines).map (case :: ·)

/-- The cases of a file. It is an array if a bracket comes first. -/
def parseCases (text : List Char) : Except CaseFileError (List Case) :=
  if (Text.trimStart text).head? = some '[' then
    match Value.parse? text >>= Value.list? Case.ofJson? with
    | some cases => .ok cases
    | none => .error .malformedArray
  else casesOfLines 1 (Text.lines text)

end Redraft.Replay
