import Redraft.Pattern.Automaton

/-!
Stop sequences. One is written as a literal text, or as a pattern between `r/` and `/`.
Classifying a text against one tells whether the text ends with the sequence, may still grow
into it, or neither. Places in a text are counted in characters.
-/

namespace Redraft.Stop

inductive Verdict where
  | clear
  /-- May still grow into a stop sequence. -/
  | partialMatch
  /-- Ends with this text, which is complete. -/
  | whole (stop : List Char)
deriving DecidableEq, Repr

def Verdict.isWhole : Verdict → Bool
  | whole _ => true
  | _ => false

inductive Sequence where
  | literal (text : List Char)
  /-- A pattern that does not compile is malformed and matches nothing. -/
  | pattern (source : List Char) (compiled : Option Pattern.Compiled)

namespace Sequence

def patternSource? : List Char → Option (List Char)
  | 'r' :: '/' :: rest =>
    if 2 ≤ rest.length ∧ rest.getLast? = some '/' then some rest.dropLast else none
  | _ => none

/-- The empty text is no stop sequence. -/
def ofText? (engine : Pattern.Engine) (text : List Char) : Option Sequence :=
  match text, patternSource? text with
  | [], _ => none
  | _, some source => some (.pattern source (engine source))
  | text, none => some (.literal text)

/-- Where the first end of the text begins that `literal` begins with. -/
def literalHold? (literal : List Char) : (text : List Char) → Option Nat
  | [] => none
  | c :: text =>
    if (c :: text).isPrefixOf literal then some 0
    else (literalHold? literal text).map (· + 1)

def literalFind? (literal : List Char) : (text : List Char) → Option Nat
  | [] => if literal.isEmpty then some 0 else none
  | c :: text =>
    if literal.isPrefixOf (c :: text) then some 0
    else (literalFind? literal text).map (· + 1)

/-- The longest end of the text that the pattern matches up to the end. -/
def patternWhole? (automaton : Pattern.Automaton) (before : Option Char) :
    (text : List Char) → Option (List Char)
  | [] => none
  | c :: text =>
    if automaton.reachText before (c :: text) = .whole then some (c :: text)
    else patternWhole? automaton (some c) text

/-- Where the longest end of the text begins from which the pattern may still match. -/
def patternHold? (automaton : Pattern.Automaton) (before : Option Char) :
    (text : List Char) → Option Nat
  | [] => none
  | c :: text =>
    if automaton.reachText before (c :: text) = .dead then
      (patternHold? automaton (some c) text).map (· + 1)
    else some 0

/-- Where the earliest end of the text begins that could still grow into the sequence. All
in front of it can be let go. -/
def hold? (sequence : Sequence) (text : List Char) : Option Nat :=
  match sequence with
  | literal stop => literalHold? stop text
  | pattern _ (some compiled) => patternHold? compiled.automaton none text
  | pattern _ none => none

def whole? (sequence : Sequence) (text : List Char) : Option (List Char) :=
  match sequence with
  | literal stop => if stop.isSuffixOf text then some stop else none
  | pattern _ (some compiled) => patternWhole? compiled.automaton none text
  | pattern _ none => none

def classify (sequence : Sequence) (text : List Char) : Verdict :=
  match sequence.whole? text with
  | some stop => .whole stop
  | none => if (sequence.hold? text).isSome then .partialMatch else .clear

def find? (sequence : Sequence) (text : List Char) : Option Nat :=
  match sequence with
  | literal stop => literalFind? stop text
  | pattern _ (some compiled) => compiled.find? text
  | pattern _ none => none

@[simp] theorem literalHold?_nil (literal : List Char) : literalHold? literal [] = none := rfl

@[simp] theorem patternHold?_nil (automaton : Pattern.Automaton) (before : Option Char) :
    patternHold? automaton before [] = none := rfl

@[simp] theorem patternWhole?_nil (automaton : Pattern.Automaton) (before : Option Char) :
    patternWhole? automaton before [] = none := rfl

theorem suffix_of_patternWhole? {automaton : Pattern.Automaton} {before : Option Char}
    {text stop : List Char} (h : patternWhole? automaton before text = some stop) :
    stop <:+ text := by
  induction text generalizing before with
  | nil => simp at h
  | cons c text ih =>
    simp only [patternWhole?] at h
    split at h
    · cases h
      exact List.suffix_rfl
    · exact (ih h).trans (List.suffix_cons c text)

theorem suffix_of_whole? {sequence : Sequence} {text stop : List Char}
    (h : sequence.whole? text = some stop) : stop <:+ text := by
  match sequence with
  | .literal text =>
    simp only [whole?, Option.ite_none_right_eq_some, Option.some.injEq] at h
    exact h.2 ▸ List.isSuffixOf_iff_suffix.1 h.1
  | .pattern _ (some _) => exact suffix_of_patternWhole? h
  | .pattern _ none => simp [whole?] at h

end Sequence

end Redraft.Stop
