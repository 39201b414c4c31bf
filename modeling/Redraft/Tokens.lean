import Redraft.Size

/-!
A model reads and writes numbered tokens. A text is a list of them, and the measurement
that everything else rests on is how far two texts agree from their starts.
-/

namespace Redraft

abbrev Token := Nat

abbrev Tokens := List Token

namespace Tokens

/-- Length of the longest common beginning. -/
def agreement : Tokens → Tokens → Nat
  | a :: as, b :: bs => if a = b then agreement as bs + 1 else 0
  | _, _ => 0

@[simp] theorem agreement_nil_left (ys : Tokens) : agreement [] ys = 0 := by
  cases ys <;> rfl

@[simp] theorem agreement_nil_right (xs : Tokens) : agreement xs [] = 0 := by
  cases xs <;> rfl

@[simp] theorem agreement_cons_self (a : Token) (as bs : Tokens) :
    agreement (a :: as) (a :: bs) = agreement as bs + 1 := by
  simp [agreement]

theorem agreement_cons_of_ne {a b : Token} (h : a ≠ b) (as bs : Tokens) :
    agreement (a :: as) (b :: bs) = 0 := by
  simp [agreement, h]

def positions (start stop : Nat) : List Nat :=
  List.range' start (stop - start)

@[simp] theorem mem_positions {start stop i : Nat} :
    i ∈ positions start stop ↔ start ≤ i ∧ i < stop := by
  simp only [positions, List.mem_range'_1]
  omega

def slice? (text : Tokens) (start stop : Nat) : Option Tokens :=
  if start ≤ stop ∧ stop ≤ text.length then some (text.extract start stop) else none

/-- The part from `start` on, up to `count` tokens. Where it would end is a size, too. -/
def following? (text : Tokens) (start count : Nat) : Option Tokens := do
  let stop ← Size.of? (start + count)
  text.slice? start (min stop text.length)

theorem following?_of_le {text : Tokens} {start : Nat} (hstart : start ≤ text.length)
    (count : Nat) :
    text.following? start count =
      if start + count < UInt64.size then
        some (text.extract start (min (start + count) text.length))
      else none := by
  unfold following?
  split
  · rename_i hfits
    rw [Size.of?_of_lt hfits]
    exact if_pos (by omega)
  · rename_i hlarge
    rw [Size.of?_of_le (Nat.not_lt.1 hlarge)]
    rfl

end Tokens

end Redraft
