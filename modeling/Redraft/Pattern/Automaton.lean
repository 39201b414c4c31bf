import Redraft.Text.Offset

/-!
Patterns as automata over the bytes of a text. How a pattern is compiled is left to an engine;
all that is known of a compiled pattern are the transitions of its automaton, and where an
ordinary search finds it first.
-/

namespace Redraft.Pattern

inductive Reach where
  /-- No text that follows makes it match. -/
  | dead
  | live
  /-- Matches up to the end. -/
  | whole
deriving DecidableEq, Repr

/-- A match is seen one byte late, or at the end of the text. -/
structure Automaton where
  State : Type
  /-- The state of a match that begins behind a byte, unless that byte cannot be followed. -/
  start? : (before : Option UInt8) → Option State
  next : State → UInt8 → State
  atEnd : State → State
  isMatch : State → Bool
  isDead : State → Bool
  /-- Gave up at a byte that cannot be followed. -/
  isQuit : State → Bool

namespace Automaton

variable (automaton : Automaton)

def isLost (state : automaton.State) : Bool := automaton.isDead state || automaton.isQuit state

def walk (state : automaton.State) : (bytes : List UInt8) → Option automaton.State
  | [] => some state
  | byte :: bytes =>
    let state := automaton.next state byte
    if automaton.isLost state then none else walk state bytes

def canReachMatch (state : automaton.State) : Bool :=
  (List.range 0x100).any fun byte => !automaton.isLost (automaton.next state (.ofNat byte))

def reachFrom (state : automaton.State) (bytes : List UInt8) : Reach :=
  match automaton.walk state bytes with
  | none => .dead
  | some state =>
    if automaton.isMatch (automaton.atEnd state) then .whole
    else if automaton.canReachMatch state then .live
    else .dead

def reach (before : Option UInt8) (bytes : List UInt8) : Reach :=
  match automaton.start? before with
  | none => .dead
  | some state => automaton.reachFrom state bytes

/-- How far a match gets that begins behind a character, with the text up to its end. -/
def reachText (before : Option Char) (text : List Char) : Reach :=
  automaton.reach (before.bind fun c => (String.utf8EncodeChar c).getLast?) (Text.utf8 text)

end Automaton

structure Compiled where
  automaton : Automaton
  /-- The number of characters in front of the first match. -/
  find? : (text : List Char) → Option Nat

/-- Compiles the patterns that are well formed. -/
abbrev Engine := (source : List Char) → Option Compiled

end Redraft.Pattern
