import Redraft.Tokens

namespace Redraft.Synthetic

def multiplier : UInt64 := 6364136223846793005

def increment : UInt64 := 1442695040888963407

def seedMask : UInt64 := 0x9E3779B97F4A7C15

/-- The next state of the generator, a linear congruence modulo `2 ^ 64`. -/
def next (state : UInt64) : UInt64 := state * multiplier + increment

def tokensFrom (vocabulary : UInt64) : UInt64 → Nat → Tokens
  | _, 0 => []
  | state, length + 1 =>
    let state := next state
    ((state >>> 33) % vocabulary).toNat :: tokensFrom vocabulary state length

/-- Tokens below `vocabulary`; an empty vocabulary counts as one of a single token. -/
def pseudoRandom (seed : UInt64) (length : Nat) (vocabulary : UInt32) : Tokens :=
  tokensFrom (max vocabulary 1).toUInt64 (seed ^^^ seedMask) length

@[simp] theorem length_tokensFrom (vocabulary state : UInt64) (length : Nat) :
    (tokensFrom vocabulary state length).length = length := by
  induction length generalizing state with
  | zero => rfl
  | succ length ih => simp [tokensFrom, ih]

/-- A local change. Positions are those of the unedited text. -/
inductive Edit where
  | replace (start length : Nat) (replacement : Tokens)
  | insert (start : Nat) (tokens : Tokens)
  | delete (start length : Nat)
deriving DecidableEq, Repr

namespace Edit

def start : Edit → Nat
  | replace start _ _ => start
  | insert start _ => start
  | delete start _ => start

def removed : Edit → Nat
  | replace _ length _ => length
  | insert _ _ => 0
  | delete _ length => length

def added : Edit → Tokens
  | replace _ _ replacement => replacement
  | insert _ tokens => tokens
  | delete _ _ => []

end Edit

def applyFrom? (text : Tokens) (cursor : Nat) : List Edit → Option Tokens
  | [] => if cursor ≤ text.length then some (text.drop cursor) else none
  | edit :: edits =>
    if cursor ≤ edit.start ∧ edit.start ≤ text.length then
      (applyFrom? text (edit.start + edit.removed) edits).map fun rest =>
        text.extract cursor edit.start ++ edit.added ++ rest
    else none

/-- A copy of a text with edits in it, which come in order and do not overlap. -/
def editedCopy? (text : Tokens) (edits : List Edit) : Option Tokens := applyFrom? text 0 edits

@[simp] theorem editedCopy?_nil (text : Tokens) : editedCopy? text [] = some text := by
  simp [editedCopy?, applyFrom?]

end Redraft.Synthetic
