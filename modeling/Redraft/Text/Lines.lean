namespace Redraft.Text

def cutAfter {α : Type} [BEq α] (mark : α) : List α → List (List α)
  | [] => []
  | a :: rest =>
    if a == mark then [a] :: cutAfter mark rest
    else
      match cutAfter mark rest with
      | [] => [[a]]
      | part :: parts => (a :: part) :: parts

@[simp] theorem flatten_cutAfter {α : Type} [BEq α] (mark : α) (list : List α) :
    (cutAfter mark list).flatten = list := by
  induction list with
  | nil => rfl
  | cons a rest ih =>
    rw [cutAfter]
    split
    · simp [ih]
    · split
      · rename_i h
        rw [h] at ih
        simp_all
      · rename_i h
        rw [h] at ih
        simp_all

def linesWithEnds (text : List Char) : List (List Char) := cutAfter '\n' text

def dropLineEnd (line : List Char) : List Char :=
  match line.reverse with
  | '\n' :: '\r' :: rest => rest.reverse
  | '\n' :: rest => rest.reverse
  | _ => line

def lines (text : List Char) : List (List Char) := (linesWithEnds text).map dropLineEnd

/-- The lines of a file, each with its end; nothing stands for one that is not text. -/
def linesOfBytes (bytes : List UInt8) : List (Option (List Char)) :=
  (cutAfter 10 bytes).map fun line => (String.fromUTF8? ⟨line.toArray⟩).map String.toList

end Redraft.Text
