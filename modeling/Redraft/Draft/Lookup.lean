import Redraft.Draft.Fallback

/-!
Prompt lookup. Text repeats, so when the end of the context occurs earlier, what followed
there is a good draft. The longest such ending, up to a limit, is found by reading the
context backwards: an ending that occurs earlier becomes a beginning that occurs later, and
one pass with a failure table finds all of those.
-/

namespace Redraft.Draft

structure Lookup where
  /-- The shortest ending worth looking up; zero counts as one. -/
  minLength : Nat := 2
  /-- The longest ending tried. -/
  maxLength : Nat := 5
deriving DecidableEq, Repr

namespace Lookup

/-- The pass over the reversed context. `matched` tokens of its beginning end here. -/
structure Scan where
  failures : Array Nat := #[0]
  matched : Nat := 0
  bestLength : Nat := 0
  /-- Where the last of the longest matches ends. -/
  bestEnd : Nat := 0
deriving DecidableEq, Repr

/-- The longest beginning that ends before the next token and goes on with it, if any. -/
def fallBack (backwards : Array Token) (failures : Array Nat) (token : Token)
    (matched : Nat) : Option Nat :=
  if backwards[matched]? = some token then some matched
  else if h : 0 < matched ∧ failures.getD (matched - 1) 0 < matched then
    fallBack backwards failures token (failures.getD (matched - 1) 0)
  else none
termination_by matched
decreasing_by exact h.2

/-- The failure table stops at `limit`: a longer match goes on as the longest that is
shorter. -/
def Scan.step (backwards : Array Token) (limit : Nat) (scan : Scan) (i : Nat)
    (token : Token) : Scan :=
  match fallBack backwards scan.failures token scan.matched with
  | none =>
    { scan with
      failures := if i < limit then scan.failures.push 0 else scan.failures
      matched := 0 }
  | some before =>
    let matched := before + 1
    let failures := if i < limit then scan.failures.push matched else scan.failures
    { failures
      matched := if matched = limit then failures.getD (limit - 1) 0 else matched
      bestLength := max scan.bestLength matched
      bestEnd := if scan.bestLength ≤ matched then i else scan.bestEnd }

def scanFrom (backwards : Array Token) (limit : Nat) : Nat → Scan → List Token → Scan
  | _, scan, [] => scan
  | i, scan, token :: rest =>
    scanFrom backwards limit (i + 1) (scan.step backwards limit i token) rest

def scan (limit : Nat) (context : Tokens) : Scan :=
  scanFrom context.reverse.toArray limit 1 {} context.reverse.tail

def draft (lookup : Lookup) (context : Tokens) (count : Nat) : Tokens :=
  let shortest := max lookup.minLength 1
  if count = 0 ∨ lookup.maxLength < shortest ∨ context.length ≤ shortest then []
  else
    let found := scan lookup.maxLength context
    if found.bestLength < shortest then []
    else
      (context.drop (context.length - 1 - found.bestEnd + found.bestLength)).take count

/-- Falling back, unless a place is read that is not there, or one that leads to nothing
shorter. -/
def fallBack? (backwards : Array Token) (failures : Array Nat) (token : Token)
    (matched : Nat) : Option (Option Nat) :=
  match backwards[matched]? with
  | none => none
  | some next =>
    if next = token then some (some matched)
    else if matched = 0 then some none
    else
      match failures[matched - 1]? with
      | none => none
      | some shorter =>
        if shorter < matched then fallBack? backwards failures token shorter else none

def Scan.step? (backwards : Array Token) (limit : Nat) (scan : Scan) (i : Nat) :
    Option Scan := do
  let token ← backwards[i]?
  match ← fallBack? backwards scan.failures token scan.matched with
  | none =>
    return { scan with
      failures := if i < limit then scan.failures.push 0 else scan.failures
      matched := 0 }
  | some before =>
    let failures := if i < limit then scan.failures.push (before + 1) else scan.failures
    (if before + 1 = limit then failures[limit - 1]? else some (before + 1)).map fun matched =>
      { failures, matched
        bestLength := max scan.bestLength (before + 1)
        bestEnd := if scan.bestLength ≤ before + 1 then i else scan.bestEnd }

def scanFrom? (backwards : Array Token) (limit i : Nat) (scan : Scan) : Option Scan :=
  if i < backwards.size then
    (scan.step? backwards limit i).bind (scanFrom? backwards limit (i + 1))
  else some scan
termination_by backwards.size - i

/-- The most entries of eight bytes that an array can have. -/
def tableLimit : Nat := (UInt64.size / 2 - 1) / 8

/-- The draft as far as memory, places and sizes go: the table may be too large to begin with. -/
def draft? (lookup : Lookup) (context : Tokens) (count : Nat) : Option Tokens :=
  let shortest := max lookup.minLength 1
  if count = 0 ∨ lookup.maxLength < shortest ∨ context.length ≤ shortest then some []
  else if tableLimit < lookup.maxLength then none
  else
    (scanFrom? context.reverse.toArray lookup.maxLength 1 {}).bind fun found =>
      if found.bestLength < shortest then some []
      else if context.length - 1 < found.bestEnd then none
      else context.following? (context.length - 1 - found.bestEnd + found.bestLength) count

def fallback {μ : Type} (lookup : Lookup) : Fallback μ :=
  .ofFunction "prompt-lookup" lookup.draft

end Lookup

end Redraft.Draft
