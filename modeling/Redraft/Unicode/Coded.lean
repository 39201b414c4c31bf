import Redraft.Unicode.CharSet

/-!
The tables of character properties are written as texts. A text lists ranges, parted by
blanks or line ends. `s` is a range of one code point that comes `s` code points after the end of the
range before it, `s.m` is one that is longer by `m`, and `s.m*n` stands for `n` of them in a
row. All numbers are hexadecimal.
-/

namespace Redraft.Unicode.Coded

def isGap (c : Char) : Bool := c == ' ' || c == '\n'

def digit (c : Char) : Nat :=
  if c.isDigit then c.toNat - '0'.toNat else c.toNat - 'a'.toNat + 10

def number (text : List Char) : Nat := text.foldl (fun n c => n * 16 + digit c) 0

/-- One item: the distance, the excess length and the number of repetitions. -/
def item (text : List Char) : Nat × Nat × Nat :=
  let (range, times) := text.span (· != '*')
  let (skip, more) := range.span (· != '.')
  (number skip, number (more.drop 1), if times.isEmpty then 1 else number (times.drop 1))

/-- The ranges of an item, the last one first, in front of those before it. -/
def place (skip more : Nat) : Nat → Nat × List CodeRange → Nat × List CodeRange
  | 0, state => state
  | times + 1, (next, ranges) =>
    place skip more times (next + skip + more + 1, (next + skip, next + skip + more) :: ranges)

def step (state : Nat × List CodeRange) (text : List Char) : Nat × List CodeRange :=
  let (skip, more, times) := item text
  place skip more times state

def read (state : List Char × Nat × List CodeRange) (c : Char) :
    List Char × Nat × List CodeRange :=
  if !isGap c then (c :: state.1, state.2)
  else if state.1.isEmpty then state
  else ([], step state.2 state.1.reverse)

def ranges (text : String) : List CodeRange :=
  ((text.toList ++ [' ']).foldl read ([], 0, [])).2.2.reverse

def words (text : String) : List (List Char) :=
  (text.toList.splitBy fun a b => isGap a == isGap b).filter (!·.any isGap)

def set (text : String) : CharSet := ⟨ranges text⟩

example : ranges "41.19 6.19" = [(0x41, 0x5A), (0x61, 0x7A)] := by decide +kernel

example : ranges "0.1 2*3" = [(0, 1), (4, 4), (7, 7), (10, 10)] := by decide +kernel

end Redraft.Unicode.Coded
