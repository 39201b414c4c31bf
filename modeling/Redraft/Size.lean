/-!
Sizes have 64 bits. A call that comes to one that does not fit stops there, and has no answer.
-/

namespace Redraft.Size

def of? (n : Nat) : Option Nat := if n < UInt64.size then some n else none

theorem of?_of_lt {n : Nat} (hfits : n < UInt64.size) : of? n = some n := if_pos hfits

theorem of?_of_le {n : Nat} (hlarge : UInt64.size ≤ n) : of? n = none :=
  if_neg (Nat.not_lt.2 hlarge)

end Redraft.Size
