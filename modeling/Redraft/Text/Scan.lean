namespace Redraft.Text

abbrev Scan := StateT (List Char) Option

namespace Scan

variable {α : Type}

def rest : Scan (List Char) := get

def peek : Scan (Option Char) := return (← get).head?

def next : Scan Char := fun
  | [] => none
  | c :: rest => some (c, rest)

def require (condition : Bool) : Scan Unit := if condition then pure () else failure

def expect (c : Char) : Scan Unit := do require ((← next) == c)

def accept (word : String) : Scan Bool := do
  let rest ← get
  if word.toList.isPrefixOf rest then
    set (rest.drop word.length)
    pure true
  else pure false

def expectWord (word : String) : Scan Unit := do require (← accept word)

def many (p : Char → Bool) : Scan (List Char) := do
  let rest ← get
  set (rest.dropWhile p)
  pure (rest.takeWhile p)

def some (p : Char → Bool) : Scan (List Char) := do
  let found ← many p
  require (!found.isEmpty)
  pure found

def skip (p : Char → Bool) : Scan Unit := modify (·.dropWhile p)

/-- A scan that may fail without taking anything. -/
def maybe (scan : Scan α) : Scan (Option α) := (Option.some <$> scan) <|> pure none

def all? (scan : Scan α) (text : List Char) : Option α :=
  match scan.run text with
  | Option.some (value, []) => Option.some value
  | _ => none

/-- Items with commas between them. `fuel` bounds their number. -/
def separated (item : Scan α) (comma : Scan Bool) : (fuel : Nat) → Scan (List α)
  | 0 => failure
  | fuel + 1 => do
    let first ← item
    if ← comma then pure (first :: (← separated item comma fuel)) else pure [first]

@[simp] theorem next_cons (c : Char) (rest : List Char) :
    next (c :: rest) = Option.some (c, rest) := rfl

@[simp] theorem next_nil : next [] = none := rfl

end Scan

def hexDigit? (c : Char) : Option Nat :=
  if c.isDigit then some (c.toNat - '0'.toNat)
  else if 'a' ≤ c ∧ c ≤ 'f' then some (c.toNat - 'a'.toNat + 10)
  else if 'A' ≤ c ∧ c ≤ 'F' then some (c.toNat - 'A'.toNat + 10)
  else none

def hexNumber? (digits : List Char) : Option Nat :=
  digits.foldlM (fun n c => (hexDigit? c).map (n * 16 + ·)) 0

def decimal (digits : List Char) : Nat :=
  digits.foldl (fun n c => n * 10 + (c.toNat - '0'.toNat)) 0

def hexText (width n : Nat) : List Char :=
  let digits := Nat.toDigits 16 n
  List.replicate (width - digits.length) '0' ++ digits

end Redraft.Text
