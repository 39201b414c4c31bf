import Redraft.Pattern.Reader

namespace Redraft.Pattern

namespace Reader

def setItem : Reader Tree := do
  let c ← current
  if c == '\\' then escape
  else
    bump
    pure (.literal { char := c })

def asSetItem : Tree → Reader SetTree
  | .literal literal => pure (.literal literal)
  | .perl cls negated => pure (.perl cls negated)
  | .property property negated => pure (.property property negated)
  | _ => failure

def asLiteral : Tree → Reader Literal
  | .literal literal => pure literal
  | _ => failure

def setRange : Reader SetTree := do
  let first ← setItem
  skip
  let c ← current
  let after := peekAfter (← get).skipping (← rest)
  if c != '-' || after == some ']' || after == some '-' then asSetItem first
  else
    bumpInside
    let last ← setItem
    let first ← asLiteral first
    let last ← asLiteral last
    require (first.char ≤ last.char)
    pure (.range first last)

def leadingSigns : Nat → List SetTree → Reader (List SetTree)
  | 0, items => pure items
  | fuel + 1, items => do
    if (← current) == '-' then
      bumpInside
      leadingSigns fuel (.literal { char := '-' } :: items)
    else pure items

/-- The opening of a set: whether it is negated, and its first literal items, the last one
first. -/
def openSet : Reader (Bool × List SetTree) := do
  bumpInside
  let negated := (← current) == '^'
  if negated then bumpInside
  let items ← leadingSigns (← rest).length []
  if items.isEmpty && (← current) == ']' then
    bumpInside
    pure (negated, [.literal { char := ']' }])
  else pure (negated, items)

def setOperation? : List Char → Option SetOperation
  | '&' :: '&' :: _ => some .intersection
  | '-' :: '-' :: _ => some .difference
  | '~' :: '~' :: _ => some .symmetricDifference
  | _ => none

def closeOperand (items : List SetTree) (waiting : Option (SetOperation × SetTree)) :
    SetTree :=
  let operand := SetTree.ofItems items.reverse
  match waiting with
  | none => operand
  | some (operation, left) => .operation operation left operand

/-- The rest of a set up to its closing bracket. Operations apply from left to right. -/
def setBody : Nat → List SetTree → Option (SetOperation × SetTree) → Reader SetTree
  | 0, _, _ => failure
  | fuel + 1, items, waiting => do
    skip
    let c ← current
    let rest ← rest
    if c == '[' then
      match asciiSet? rest with
      | some (item, rest) =>
        setRest rest
        setBody fuel (item :: items) waiting
      | none =>
        let (negated, inner) ← openSet
        let body ← setBody fuel inner none
        setBody fuel (.bracketed negated body :: items) waiting
    else if c == ']' then
      bump
      pure (closeOperand items waiting)
    else match setOperation? rest with
      | some operation =>
        bump
        bump
        setBody fuel [] (some (operation, closeOperand items waiting))
      | none => setBody fuel ((← setRange) :: items) waiting

def bracketed : Reader Tree := do
  let (negated, items) ← openSet
  let body ← setBody ((← rest).length + 1) items none
  pure (.bracketed negated body)

def repeatable : List Tree → Reader (Tree × List Tree)
  | [] => failure
  | .empty :: _ => failure
  | .flags _ :: _ => failure
  | item :: items => pure (item, items)

/-- The head of a group. A directive is an item by itself; anything else opens a group, of
which the rest of the function is told. -/
inductive Opening where
  | directive (items : List FlagItem)
  | group (wrap : Tree → Tree) (flags : List FlagItem)

def opening : Reader Opening := do
  bumpSkip
  for look in [['?', '='], ['?', '!'], ['?', '<', '='], ['?', '<', '!']] do
    require (!look.isPrefixOf (← rest))
  if (← accept ['?', 'P', '<']) || (← accept ['?', '<']) then
    let index ← nextCapture
    groupName
    pure (.group (.capture index) [])
  else if ← accept ['?'] then
    let items ← flags ((← rest).length + 1) []
    let c ← current
    bump
    if c == ')' then
      require (!items.isEmpty)
      pure (.directive items)
    else pure (.group (.group items) items)
  else
    let index ← nextCapture
    pure (.group (.capture index) [])

def setSkipping (items : List FlagItem) : Reader Unit := do
  match FlagItem.position? .ignoreWhitespace items true with
  | none => pure ()
  | some skipping => modify fun cursor => { cursor with skipping }

def primitive (c : Char) : Reader Tree := do
  if c == '\\' then escape
  else
    bump
    match c with
    | '.' => pure .dot
    | '^' => pure (.assertion .startLine)
    | '$' => pure (.assertion .endLine)
    | c => pure (.literal { char := c })

def repetitionSign? : Char → Option (Nat × Option Nat)
  | '?' => some (0, some 1)
  | '*' => some (0, none)
  | '+' => some (1, none)
  | _ => none

/-- The items of the current branch and the branches before it, each the last one first. It
ends at the end of the text or in front of a closing parenthesis. -/
def branches : Nat → List Tree → List Tree → Reader Tree
  | 0, _, _ => failure
  | fuel + 1, items, done => do
    skip
    match ← peek with
    | none => pure (.ofBranches ((Tree.ofItems items.reverse :: done).reverse))
    | some ')' => pure (.ofBranches ((Tree.ofItems items.reverse :: done).reverse))
    | some '|' =>
      bump
      branches fuel [] (Tree.ofItems items.reverse :: done)
    | some '(' =>
      match ← opening with
      | .directive flags =>
        setSkipping flags
        branches fuel (.flags flags :: items) done
      | .group wrap flags =>
        let skipping := (← get).skipping
        setSkipping flags
        let body ← branches fuel [] []
        require ((← peek) == some ')')
        modify fun cursor => { cursor with skipping }
        bump
        branches fuel (wrap body :: items) done
    | some '[' => branches fuel ((← bracketed) :: items) done
    | some '\x7b' =>
      let (item, items) ← repeatable items
      let (low, high) ← counts
      bumpSkip
      let greedy := !(← lazySign)
      branches fuel (.repetition low high greedy item :: items) done
    | some c =>
      match repetitionSign? c with
      | some (low, high) =>
        let (item, items) ← repeatable items
        bump
        let greedy := !(← lazySign)
        branches fuel (.repetition low high greedy item :: items) done
      | none => branches fuel ((← primitive c) :: items) done

end Reader

def nestLimit : Nat := 250

def Tree.parse? (text : List Char) : Option Tree := do
  let (tree, cursor) ← (Reader.branches (text.length + 1) [] []).run { rest := text }
  if cursor.rest.isEmpty && tree.depth ≤ nestLimit then some tree else none

end Redraft.Pattern
