import Redraft.Unicode.CharSet

/-!
What a pattern matches, in a normal form. The constructors with a small letter simplify:
neighbouring literals are joined, sequences and alternatives are flattened, alternatives
between single characters become one set, and a beginning that all alternatives share is
taken out in front of them. The last may change which alternative is tried first, so it
belongs to the meaning of a pattern.
-/

namespace Redraft.Pattern

open Unicode

inductive Edge where
  | boundary
  | notBoundary
  | start
  | stop
  | startHalf
  | stopHalf
deriving DecidableEq, Repr

inductive Look where
  | textStart
  | textEnd
  | lineStart
  | lineEnd
  | crlfStart
  | crlfEnd
  | word (edge : Edge) (unicode : Bool)
deriving DecidableEq, Repr

inductive Expr where
  | empty
  | literal (text : List Char)
  | set (set : CharSet)
  | look (look : Look)
  | repetition (min : Nat) (max : Option Nat) (greedy : Bool) (body : Expr)
  | capture (index : Nat) (body : Expr)
  | concat (items : List Expr)
  | alternation (branches : List Expr)

namespace Expr

mutual

def same : Expr → Expr → Bool
  | empty, empty => true
  | literal a, literal b => a == b
  | set a, set b => a == b
  | look a, look b => a == b
  | repetition min max greedy a, repetition min' max' greedy' b =>
    min == min' && max == max' && greedy == greedy' && same a b
  | capture i a, capture j b => i == j && same a b
  | concat as, concat bs => sameAll as bs
  | alternation as, alternation bs => sameAll as bs
  | _, _ => false

def sameAll : List Expr → List Expr → Bool
  | [], [] => true
  | a :: as, b :: bs => same a b && sameAll as bs
  | _, _ => false

end

mutual

/-- The least number of characters matched, or nothing if a part cannot match at all. -/
def minLength? : Expr → Option Nat
  | empty => some 0
  | literal text => some text.length
  | set s => if s.isEmpty then none else some 1
  | look _ => some 0
  | repetition min _ _ body => body.minLength?.map (· * min)
  | capture _ body => body.minLength?
  | concat items => sumLength? items
  | alternation branches => leastLength? branches

def sumLength? : List Expr → Option Nat
  | [] => some 0
  | item :: items =>
    match item.minLength?, sumLength? items with
    | some a, some b => some (a + b)
    | _, _ => none

def leastLength? : List Expr → Option Nat
  | [] => none
  | [branch] => branch.minLength?
  | branch :: branches =>
    match branch.minLength?, leastLength? branches with
    | some a, some b => some (min a b)
    | _, _ => none

end

mutual

def isZeroWidth : Expr → Bool
  | empty => true
  | literal text => text.isEmpty
  | set _ => false
  | look _ => true
  | repetition _ max _ body => body.isZeroWidth && max.isSome
  | capture _ body => body.isZeroWidth
  | concat items => allZeroWidth items
  | alternation branches => allZeroWidth branches

def allZeroWidth : List Expr → Bool
  | [] => true
  | item :: items => item.isZeroWidth && allZeroWidth items

end

mutual

def size : Expr → Nat
  | repetition _ _ _ body => body.size + 1
  | capture _ body => body.size + 1
  | concat items => totalSize items + 1
  | alternation branches => totalSize branches + 1
  | _ => 1

def totalSize : List Expr → Nat
  | [] => 0
  | item :: items => item.size + totalSize items

end

mutual

def hasUnicodeEdge : Expr → Bool
  | look (.word _ unicode) => unicode
  | repetition _ _ _ body => body.hasUnicodeEdge
  | capture _ body => body.hasUnicodeEdge
  | concat items => anyUnicodeEdge items
  | alternation branches => anyUnicodeEdge branches
  | _ => false

def anyUnicodeEdge : List Expr → Bool
  | [] => false
  | item :: items => item.hasUnicodeEdge || anyUnicodeEdge items

end

def fail : Expr := set .empty

def ofText (text : List Char) : Expr := if text.isEmpty then empty else literal text

def ofSet (s : CharSet) : Expr :=
  match s.only? with
  | some c => literal [c]
  | none => set s

/-- An empty body is repeated once at most, and no repetitions are the empty text. -/
def ofRepetition (low : Nat) (high : Option Nat) (greedy : Bool) (body : Expr) : Expr :=
  let (low, high) :=
    if body.isZeroWidth then (min low 1, some ((high.map (min · 1)).getD 1)) else (low, high)
  if high = some 0 ∧ low = 0 then empty
  else if low = 1 ∧ high = some 1 then body
  else repetition low high greedy body

def prepend (item : Expr) (items : List Expr) : List Expr :=
  match item, items with
  | empty, items => items
  | literal a, literal b :: items => literal (a ++ b) :: items
  | item, items => item :: items

def ofSequence : List Expr → Expr
  | [] => empty
  | [item] => item
  | items => concat items

def flattenConcat : Expr → List Expr
  | concat items => items
  | item => [item]

def ofItems (items : List Expr) : Expr :=
  ofSequence ((items.flatMap flattenConcat).foldr prepend [])

def flattenAlternation : Expr → List Expr
  | alternation branches => branches
  | branch => [branch]

def asSet? : Expr → Option CharSet
  | set s => some s
  | literal [c] => some (.ofChar c)
  | _ => none

def sharedItems : List Expr → List Expr → List Expr
  | a :: as, b :: bs => if same a b then a :: sharedItems as bs else []
  | _, _ => []

def itemsOfConcat? : Expr → Option (List Expr)
  | concat items => some items
  | _ => none

def splitShared? (branches : List Expr) : Option (List Expr × List (List Expr)) := do
  match ← branches.mapM itemsOfConcat? with
  | [] => none
  | first :: others =>
    let shared := others.foldl sharedItems first
    if shared.isEmpty then none
    else some (shared, (first :: others).map (·.drop shared.length))

/-- The alternation of branches. `fuel` bounds how often a beginning is taken out. -/
def alternate : (fuel : Nat) → List Expr → Expr
  | 0, branches => alternation branches
  | fuel + 1, branches =>
    match branches.flatMap flattenAlternation with
    | [] => fail
    | [branch] => branch
    | branches =>
      match branches.mapM asSet? with
      | some sets => ofSet (sets.foldl CharSet.union .empty)
      | none =>
        match splitShared? branches with
        | some (shared, rests) => ofItems (shared ++ [alternate fuel (rests.map ofItems)])
        | none => alternation branches

def ofBranches (branches : List Expr) : Expr := alternate (totalSize branches + 1) branches

end Expr

end Redraft.Pattern
