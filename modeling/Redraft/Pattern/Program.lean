import Redraft.Pattern.Expr

namespace Redraft.Pattern

open Unicode

inductive Inst where
  /-- Takes one character of the set. -/
  | take (set : CharSet) (next : Nat)
  | look (look : Look) (next : Nat)
  | fork (targets : List Nat)
  | accept
deriving DecidableEq, Repr

structure Program where
  code : Array Inst
  start : Nat
  /-- Conditions on words in the sense of Unicode cannot be followed byte by byte, so such a
  program stops at every character beyond ASCII. -/
  asciiOnly : Bool
deriving Repr

abbrev Layout := StateM (Array Inst)

namespace Layout

def emit (inst : Inst) : Layout Nat := do
  let code ← get
  set (code.push inst)
  pure code.size

def patch (index : Nat) (inst : Inst) : Layout Unit := modify (·.setIfInBounds index inst)

def choice (greedy : Bool) (on leave : Nat) : Inst :=
  .fork (if greedy then [on, leave] else [leave, on])

def optional (greedy : Bool) (body : Nat → Layout Nat) (next : Nat) : Layout Nat := do
  emit (choice greedy (← body next) next)

/-- A body that comes back to a fork. Answers the fork and the body's start. -/
def loop (greedy : Bool) (body : Nat → Layout Nat) (next : Nat) : Layout (Nat × Nat) := do
  let fork ← emit (.fork [])
  let start ← body fork
  patch fork (choice greedy start next)
  pure (fork, start)

/-- Any number of bodies. If the body may be empty, the fork in front must not be the one
behind, or the order of preference would suffer. -/
def many (greedy nonempty : Bool) (body : Nat → Layout Nat) (next : Nat) : Layout Nat := do
  let (fork, start) ← loop greedy body next
  if nonempty then pure fork else emit (choice greedy start next)

def times (body : Nat → Layout Nat) : Nat → Nat → Layout Nat
  | 0, next => pure next
  | count + 1, next => do
    let rest ← times body count next
    body rest

def upTo (greedy : Bool) (body : Nat → Layout Nat) (next : Nat) : Nat → Layout Nat
  | 0 => pure next
  | count + 1 => do
    let rest ← upTo greedy body next count
    emit (choice greedy (← body rest) next)

def repeated (low : Nat) (high : Option Nat) (greedy nonempty : Bool)
    (body : Nat → Layout Nat) (next : Nat) : Layout Nat := do
  match low, high with
  | 0, some 1 => optional greedy body next
  | 0, none => many greedy nonempty body next
  | low + 1, none => do
    let (_, start) ← loop greedy body next
    times body low start
  | low, some high => do
    let rest ← upTo greedy body next (high - low)
    times body low rest

def chars (text : List Char) (next : Nat) : Layout Nat :=
  text.foldrM (fun c next => emit (.take (.ofChar c) next)) next

end Layout

open Layout

mutual

def Expr.layOut : Expr → (next : Nat) → Layout Nat
  | .empty, next => pure next
  | .literal text, next => chars text next
  | .set s, next => if s.isEmpty then emit (.fork []) else emit (.take s next)
  | .look condition, next => emit (.look condition next)
  | .repetition low high greedy body, next =>
    repeated low high greedy (body.minLength?.any (0 < ·)) (fun next => body.layOut next) next
  | .capture _ body, next => body.layOut next
  | .concat items, next => Expr.layOutAll items next
  | .alternation branches, next => do emit (.fork (← Expr.layOutEach branches next))

def Expr.layOutAll : List Expr → (next : Nat) → Layout Nat
  | [], next => pure next
  | item :: items, next => do
    let rest ← Expr.layOutAll items next
    item.layOut rest

def Expr.layOutEach : List Expr → (next : Nat) → Layout (List Nat)
  | [], _ => pure []
  | branch :: branches, next => do
    let first ← branch.layOut next
    let rest ← Expr.layOutEach branches next
    pure (first :: rest)

end

def Expr.program (expr : Expr) : Program :=
  let (start, code) := (do expr.layOut (← emit .accept) : Layout Nat).run #[]
  { code, start, asciiOnly := expr.hasUnicodeEdge }

mutual

def Expr.weight : Expr → Nat
  | .empty => 0
  | .literal text => 32 * text.length
  | .set s => 32 + 8 * s.ranges.length
  | .look _ => 32
  | .repetition low high _ body => (body.weight + 40) * max (high.getD low) 1
  | .capture _ body => body.weight + 64
  | .concat items => Expr.totalWeight items
  | .alternation branches => Expr.totalWeight branches + 32

def Expr.totalWeight : List Expr → Nat
  | [] => 0
  | item :: items => item.weight + Expr.totalWeight items

end

/-- A pattern whose program would take more than this is not built. -/
def weightLimit : Nat := 10 * 1024 * 1024

end Redraft.Pattern
