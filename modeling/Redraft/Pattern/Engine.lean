import Redraft.Pattern.Automaton
import Redraft.Pattern.Machine
import Redraft.Pattern.Meaning
import Redraft.Pattern.Parser

/-!
An engine that runs the program of a pattern as an automaton. The machine only moves at the end
of a character; inside one it knows whether a character beyond ASCII may be taken at all. A
pattern that names the age of a character or a kind of break counts as malformed here, as does
one whose program is too large.
-/

namespace Redraft.Pattern

structure Running where
  front : Front
  /-- A match ended in front of the last byte. -/
  matched : Bool := false
  /-- The number read so far of a character, and how many of its bytes are missing. -/
  begun : Option (Nat × Nat) := none
  quit : Bool := false

namespace Program

/-- Any character beyond ASCII: no condition of the machine tells them apart. -/
def foreignChar : Char := '\u0080'

def beginsForeign (program : Program) (index : Nat) : Bool :=
  match program.inst index with
  | .take set _ => set.reachesBeyondAscii
  | .accept => true
  | _ => false

def startAfter? (program : Program) (before : Option UInt8) : Option Running :=
  if program.asciiOnly && before.any (0x80 ≤ ·) then none
  else some { front := .start program (before.map (Char.ofNat ·.toNat)) }

/-- The number in the first byte of a longer character, and how many bytes follow it. -/
def firstByte (byte : Nat) : Nat × Nat :=
  if byte < 0xE0 then (byte % 0x20, 1)
  else if byte < 0xF0 then (byte % 0x10, 2)
  else (byte % 0x08, 3)

def nextByte (program : Program) (running : Running) (byte : UInt8) : Running :=
  match running.begun with
  | some (number, missing) =>
    let number := number * 0x40 + byte.toNat % 0x40
    if missing = 1 then { front := running.front.step program (Char.ofNat number) }
    else { running with begun := some (number, missing - 1) }
  | none =>
    if byte < 0x80 then
      let c := Char.ofNat byte.toNat
      { front := running.front.step program c, matched := running.front.accepts program (some c) }
    else
      { front := running.front, begun := some (firstByte byte.toNat), quit := program.asciiOnly }

def isDeadAt (program : Program) (running : Running) : Bool :=
  match running.begun with
  | some _ =>
    !(running.front.settle program (some foreignChar)).any program.beginsForeign
  | none => !running.matched && running.front.isDead

def automaton (program : Program) : Automaton where
  State := Running
  start? := program.startAfter?
  next := program.nextByte
  atEnd running := { running with matched := running.front.accepts program none }
  isMatch := Running.matched
  isDead := program.isDeadAt
  isQuit := Running.quit

def isWord (unicode : Bool) (c : Char) : Bool :=
  if unicode then Unicode.wordCharacters.contains c else isAsciiWord c

/-- Whether one of the instructions leads to a match, however long. -/
def matchesFrom (program : Program) (before : Option Char) (indices : List Nat) :
    (text : List Char) → Bool
  | [] => (program.reached (·.holds isWord before none) indices).any program.accepts
  | c :: text =>
    let reached := program.reached (·.holds isWord before (some c)) indices
    reached.any program.accepts ||
      match program.after reached c with
      | [] => false
      | indices => matchesFrom program (some c) indices text

def findFrom? (program : Program) (before : Option Char) : (text : List Char) → Option Nat
  | [] => if program.matchesFrom before [program.start] [] then some 0 else none
  | c :: text =>
    if program.matchesFrom before [program.start] (c :: text) then some 0
    else (findFrom? program (some c) text).map (· + 1)

def find? (program : Program) (text : List Char) : Option Nat := program.findFrom? none text

def ofText? (text : List Char) : Option Program := do
  let expr ← (← Tree.parse? text).meaning?
  if expr.weight ≤ weightLimit then some expr.program else none

end Program

def engine : Engine := fun source =>
  (Program.ofText? source).map fun program => ⟨program.automaton, program.find?⟩

end Redraft.Pattern
