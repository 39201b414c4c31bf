import Redraft.Pattern.Place
import Redraft.Pattern.Program

/-!
The machine that runs a program over a text, one character at a time. It holds the
instructions that are reached, by preference. What follows a condition is reached as soon as
the condition is known to hold; a condition that still depends on the next character waits
for it.
-/

namespace Redraft.Pattern

namespace Program

def inst (program : Program) (index : Nat) : Inst := program.code[index]?.getD (.fork [])

/-- Adds an instruction and what is reached from it without taking a character to those that
were reached before. The last one comes first. `fuel` bounds the length of a way. -/
def visit (program : Program) (holds : Look → Bool) :
    (fuel : Nat) → (index : Nat) → (seen : List Nat) → List Nat
  | 0, _, seen => seen
  | fuel + 1, index, seen =>
    if seen.contains index then seen
    else
      match program.inst index with
      | .take .. => index :: seen
      | .accept => index :: seen
      | .look look next =>
        if holds look then visit program holds fuel next (index :: seen) else index :: seen
      | .fork targets =>
        targets.foldl (fun seen target => visit program holds fuel target seen) (index :: seen)

def reached (program : Program) (holds : Look → Bool) (indices : List Nat) : List Nat :=
  (indices.foldl (fun seen index => program.visit holds (program.code.size + 1) index seen)
    []).reverse

def after (program : Program) (indices : List Nat) (c : Char) : List Nat :=
  indices.filterMap fun index =>
    match program.inst index with
    | .take set next => if set.contains c then some next else none
    | _ => none

def accepts (program : Program) (index : Nat) : Bool := program.inst index == .accept

def fails (program : Program) (index : Nat) : Bool := program.inst index == .fork []

def isFork (program : Program) (index : Nat) : Bool :=
  match program.inst index with
  | .fork _ => true
  | _ => false

end Program

/-- The machine in the middle of a text: the character before it and the instructions that
were reached, by preference. -/
structure Front where
  before : Option Char
  threads : List Nat
deriving DecidableEq, Repr

namespace Front

/-- The machine only knows words of ASCII letters. -/
def isWord (_unicode : Bool) (c : Char) : Bool := isAsciiWord c

/-- The machine behind a character at some instructions. An instruction that can do no step
hides those of lower preference. -/
def enter (program : Program) (before : Option Char) (indices : List Nat) : Front :=
  let reached := program.reached (·.holdsAfter isWord before) indices
  ⟨before, (reached.takeWhile (!program.fails ·)).filter (!program.isFork ·)⟩

def start (program : Program) (before : Option Char) : Front :=
  enter program before [program.start]

def awaits (front : Front) (program : Program) (next : Option Char) (index : Nat) : Bool :=
  match program.inst index with
  | .look look _ => look.holds isWord front.before next && !look.holdsAfter isWord front.before
  | _ => false

def settle (front : Front) (program : Program) (next : Option Char) : List Nat :=
  if front.threads.any (front.awaits program next) then
    program.reached (·.holds isWord front.before next) front.threads
  else front.threads

def accepts (front : Front) (program : Program) (next : Option Char) : Bool :=
  (front.settle program next).any program.accepts

def preferred (front : Front) (program : Program) (next : Option Char) : List Nat :=
  (front.settle program next).takeWhile (!program.accepts ·)

def step (program : Program) (front : Front) (c : Char) : Front :=
  enter program (some c) (program.after (front.preferred program (some c)) c)

def isDead (front : Front) : Bool := front.threads.isEmpty

@[simp] theorem settle_of_isDead {front : Front} (h : front.isDead = true)
    (program : Program) (next : Option Char) : front.settle program next = [] := by
  simp_all [isDead, settle]

@[simp] theorem step_of_isDead {front : Front} (h : front.isDead = true) (program : Program)
    (c : Char) : (front.step program c).isDead = true := by
  simp [step, preferred, settle_of_isDead h, Program.after, enter, Program.reached, isDead]

end Front

end Redraft.Pattern
