import Redraft.Pattern.Expr
import Redraft.Pattern.Tree
import Redraft.Unicode.Property

/-!
From the tree of a pattern to what it matches. Flags hold from where they are set to the end
of the group. Without the Unicode flag a pattern speaks of bytes; since it must match whole
characters, its sets are then limited to ASCII, and so nothing can be negated.
-/

namespace Redraft.Pattern

open Unicode

structure Mode where
  caseInsensitive : Bool := false
  multiLine : Bool := false
  dotMatchesNewLine : Bool := false
  swapGreed : Bool := false
  unicode : Bool := true
  crlf : Bool := false
deriving DecidableEq, Repr

namespace Mode

def set (mode : Mode) (items : List FlagItem) : Mode :=
  let value (flag : Flag) (old : Bool) : Bool := (FlagItem.position? flag items true).getD old
  { caseInsensitive := value .caseInsensitive mode.caseInsensitive
    multiLine := value .multiLine mode.multiLine
    dotMatchesNewLine := value .dotMatchesNewLine mode.dotMatchesNewLine
    swapGreed := value .swapGreed mode.swapGreed
    unicode := value .unicode mode.unicode
    crlf := value .crlf mode.crlf }

@[simp] theorem set_nil (mode : Mode) : mode.set [] = mode := rfl

/-- A set with the characters that differ from its own by case, if case does not matter. -/
def fold (mode : Mode) (s : CharSet) : CharSet :=
  if mode.caseInsensitive then (if mode.unicode then s.foldCase else s.foldAsciiCase) else s

def negate (mode : Mode) (negated : Bool) (s : CharSet) : Option CharSet :=
  if !negated then some s else if mode.unicode then some s.complement else none

def member (mode : Mode) (literal : Literal) : Option Char :=
  if mode.unicode || literal.char.toNat < 0x80 then some literal.char else none

def perl (mode : Mode) (cls : PerlClass) (negated : Bool) : Option CharSet :=
  let s := match cls, mode.unicode with
    | .digit, true => digits
    | .digit, false => .ofRange '0' '9'
    | .space, true => spaces
    | .space, false => .ofRanges [(9, 13), (32, 32)]
    | .word, true => wordCharacters
    | .word, false => .ofRanges [(0x30, 0x39), (0x41, 0x5A), (0x5F, 0x5F), (0x61, 0x7A)]
  mode.negate negated s

def property (mode : Mode) (property : Property) (negated : Bool) : Option CharSet := do
  if !mode.unicode then none
  let s ← match property with
    | .named name => property? name
    | .valued name value => propertyValue? name value
  mode.negate negated (mode.fold s)

end Mode

def SetOperation.apply (operation : SetOperation) (left right : CharSet) : CharSet :=
  match operation with
  | .intersection => left.inter right
  | .difference => left.difference right
  | .symmetricDifference => left.symmetricDifference right

mutual

def SetTree.chars (mode : Mode) : SetTree → Option CharSet
  | .literal c => (mode.member c).map .ofChar
  | .range first last => do pure (.ofRange (← mode.member first) (← mode.member last))
  | .ascii ranges negated =>
    mode.negate negated (mode.fold (.ofRanges (ranges.map fun (a, b) => (a.toNat, b.toNat))))
  | .perl cls negated => mode.perl cls negated
  | .property named negated => mode.property named negated
  | .bracketed negated body => do mode.negate negated (mode.fold (← body.chars mode))
  | .union items => SetTree.unionChars mode items
  | .operation joined left right => do
    let left ← left.chars mode
    let right ← right.chars mode
    pure (joined.apply (mode.fold left) (mode.fold right))

def SetTree.unionChars (mode : Mode) : List SetTree → Option CharSet
  | [] => some .empty
  | item :: items => do
    let s ← item.chars mode
    let rest ← SetTree.unionChars mode items
    pure (s.union rest)

end

/-- A literal is a set if case does not matter and the character has several. -/
def Mode.literal (mode : Mode) (literal : Literal) : Option Expr :=
  if !mode.unicode && literal.asByte && 0x80 ≤ literal.char.toNat then none
  else if !mode.unicode && 0x80 ≤ literal.char.toNat then some (.literal [literal.char])
  else some (.ofSet (mode.fold (.ofChar literal.char)))

def Mode.dot (mode : Mode) : Option Expr :=
  if !mode.unicode then none
  else if mode.dotMatchesNewLine then some (.set .all)
  else if mode.crlf then some (.set (CharSet.ofChars ['\n', '\r']).complement)
  else some (.set (CharSet.ofChar '\n').complement)

def Mode.look (mode : Mode) : Assertion → Look
  | .startLine =>
    if mode.multiLine then (if mode.crlf then .crlfStart else .lineStart) else .textStart
  | .endLine => if mode.multiLine then (if mode.crlf then .crlfEnd else .lineEnd) else .textEnd
  | .startText => .textStart
  | .endText => .textEnd
  | .wordBoundary => .word .boundary mode.unicode
  | .notWordBoundary => .word .notBoundary mode.unicode
  | .wordStart => .word .start mode.unicode
  | .wordEnd => .word .stop mode.unicode
  | .wordStartHalf => .word .startHalf mode.unicode
  | .wordEndHalf => .word .stopHalf mode.unicode

mutual

def Tree.expr (mode : Mode) : Tree → Option (Expr × Mode)
  | .empty => some (.empty, mode)
  | .flags items => some (.empty, mode.set items)
  | .literal c => (mode.literal c).map (·, mode)
  | .dot => mode.dot.map (·, mode)
  | .assertion condition => some (.look (mode.look condition), mode)
  | .perl cls negated => (mode.perl cls negated).map fun s => (.ofSet s, mode)
  | .property named negated => (mode.property named negated).map fun s => (.ofSet s, mode)
  | .bracketed negated body => do
    let s ← mode.negate negated (mode.fold (← body.chars mode))
    pure (.ofSet s, mode)
  | .repetition low high greedy body => do
    let (body, mode) ← body.expr mode
    pure (.ofRepetition low high (greedy != mode.swapGreed) body, mode)
  | .capture index body => do
    let (body, _) ← body.expr mode
    pure (.capture index body, mode)
  | .group settings body => do
    let (body, _) ← body.expr (mode.set settings)
    pure (body, mode)
  | .concat items => do
    let (items, mode) ← Tree.exprs mode items
    pure (.ofItems items, mode)
  | .alternation branches => do
    let (branches, mode) ← Tree.exprs mode branches
    pure (.ofBranches branches, mode)

def Tree.exprs (mode : Mode) : List Tree → Option (List Expr × Mode)
  | [] => some ([], mode)
  | tree :: trees => do
    let (first, mode) ← tree.expr mode
    let (rest, mode) ← Tree.exprs mode trees
    pure (first :: rest, mode)

end

def Tree.meaning? (tree : Tree) : Option Expr := (tree.expr {}).map (·.1)

end Redraft.Pattern
