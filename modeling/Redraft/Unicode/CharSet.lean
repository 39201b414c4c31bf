namespace Redraft.Unicode

abbrev CodeRange := Nat × Nat

structure CharSet where
  ranges : List CodeRange
deriving DecidableEq, Repr

namespace CharSet

def lastCodePoint : Nat := 0x10FFFF

def surrogates : CodeRange := (0xD800, 0xDFFF)

def empty : CharSet := ⟨[]⟩

def isEmpty (set : CharSet) : Bool := set.ranges.isEmpty

/-- Joins ranges that overlap or touch. The ranges come by their first code point. -/
def join : List CodeRange → List CodeRange
  | [] => []
  | range :: ranges => extend range ranges
where
  extend (range : CodeRange) : List CodeRange → List CodeRange
    | [] => [range]
    | next :: ranges =>
      if next.1 ≤ range.2 + 1 then extend (range.1, max range.2 next.2) ranges
      else range :: extend next ranges

def ofRanges (ranges : List CodeRange) : CharSet :=
  ⟨join ((ranges.filter fun range => range.1 ≤ range.2).mergeSort fun a b => a.1 ≤ b.1)⟩

def ofRange (first last : Char) : CharSet := ofRanges [(first.toNat, last.toNat)]

def ofChar (c : Char) : CharSet := ⟨[(c.toNat, c.toNat)]⟩

def ofChars (cs : List Char) : CharSet := ofRanges (cs.map fun c => (c.toNat, c.toNat))

def containsCode (ranges : List CodeRange) (code : Nat) : Bool :=
  match ranges with
  | [] => false
  | range :: ranges =>
    if code < range.1 then false else code ≤ range.2 || containsCode ranges code

def contains (set : CharSet) (c : Char) : Bool := containsCode set.ranges c.toNat

def union (a b : CharSet) : CharSet := ofRanges (a.ranges ++ b.ranges)

def gaps (start : Nat) : List CodeRange → List CodeRange
  | [] => if start ≤ lastCodePoint then [(start, lastCodePoint)] else []
  | range :: ranges =>
    if start < range.1 then (start, range.1 - 1) :: gaps (range.2 + 1) ranges
    else gaps (range.2 + 1) ranges

def complement (set : CharSet) : CharSet :=
  ⟨gaps 0 (ofRanges (surrogates :: set.ranges)).ranges⟩

def inter (a b : CharSet) : CharSet := (a.complement.union b.complement).complement

def difference (a b : CharSet) : CharSet := (a.complement.union b).complement

def symmetricDifference (a b : CharSet) : CharSet := (a.union b).difference (a.inter b)

def only? (set : CharSet) : Option Char :=
  match set.ranges with
  | [(first, last)] => if first = last then some (Char.ofNat first) else none
  | _ => none

def reachesBeyondAscii (set : CharSet) : Bool := set.ranges.any fun range => 0x7F < range.2

def all : CharSet := empty.complement

@[simp] theorem contains_empty (c : Char) : empty.contains c = false := rfl

@[simp] theorem contains_ofChar (a c : Char) : (ofChar a).contains c = (c == a) := by
  rw [Bool.eq_iff_iff]
  simp only [contains, ofChar, containsCode, beq_iff_eq, ← Char.toNat_inj]
  split <;> simp <;> omega

end CharSet

end Redraft.Unicode
