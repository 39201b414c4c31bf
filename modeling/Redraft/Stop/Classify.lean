import Redraft.Stop.Sequence

namespace Redraft.Stop

def sequences (engine : Pattern.Engine) (texts : List (List Char)) : List Sequence :=
  texts.filterMap (Sequence.ofText? engine)

def classify (sequences : List Sequence) (text : List Char) : Verdict :=
  if text.isEmpty then .clear
  else
    match sequences.findSome? (·.whole? text) with
    | some stop => .whole stop
    | none => if sequences.any (·.hold? text |>.isSome) then .partialMatch else .clear

def earlier : Option Nat → Option Nat → Option Nat
  | some a, some b => some (min a b)
  | some a, none => some a
  | none, b => b

def earliest (places : List (Option Nat)) : Option Nat := places.foldr earlier none

def hold? (sequences : List Sequence) (text : List Char) : Option Nat :=
  earliest (sequences.map (·.hold? text))

def trim (sequences : List Sequence) (text : List Char) : List Char :=
  match earliest (sequences.map (·.find? text)) with
  | some place => text.take place
  | none => text

@[simp] theorem classify_nil (sequences : List Sequence) : classify sequences [] = .clear := rfl

@[simp] theorem classify_of_no_sequences (text : List Char) : classify [] text = .clear := by
  simp [classify]

theorem suffix_of_classify {sequences : List Sequence} {text stop : List Char}
    (h : classify sequences text = .whole stop) : stop <:+ text := by
  simp only [classify] at h
  split at h
  · cases h
  · split at h
    · rename_i whole
      cases h
      obtain ⟨sequence, -, hstop⟩ := List.exists_of_findSome?_eq_some whole
      exact Sequence.suffix_of_whole? hstop
    · split at h <;> cases h

end Redraft.Stop
