import Redraft.Pattern.Tree
import Redraft.Text.Blank
import Redraft.Unicode.Property

namespace Redraft.Pattern

structure Cursor where
  rest : List Char
  /-- Whether blanks and comments are skipped. -/
  skipping : Bool := false
  /-- Names of groups so far. -/
  names : List (List Char) := []
  /-- Number of remembering groups so far. -/
  captures : Nat := 0

abbrev Reader := StateT Cursor Option

namespace Reader

/-- Without leading blanks and comments, which end with their line. -/
def dropBlanks (inComment : Bool) : List Char → List Char
  | [] => []
  | c :: cs =>
    if inComment then dropBlanks (c != '\n') cs
    else if Text.isBlank c then dropBlanks false cs
    else if c == '#' then dropBlanks true cs
    else c :: cs

def rest : Reader (List Char) := return (← get).rest

def peek : Reader (Option Char) := return (← get).rest.head?

def current : Reader Char := do
  match (← get).rest with
  | [] => failure
  | c :: _ => pure c

def setRest (rest : List Char) : Reader Unit := modify fun cursor => { cursor with rest }

def skip : Reader Unit := do
  let cursor ← get
  if cursor.skipping then setRest (dropBlanks false cursor.rest)

def bump : Reader Unit := modify fun cursor => { cursor with rest := cursor.rest.drop 1 }

def bumpInside : Reader Unit := do
  bump
  skip
  let _ ← current

def bumpSkip : Reader Unit := do
  bump
  skip

def accept (word : List Char) : Reader Bool := do
  let rest ← rest
  if word.isPrefixOf rest then
    setRest (rest.drop word.length)
    pure true
  else pure false

def require (condition : Bool) : Reader Unit := if condition then pure () else failure

/-- The character after the current one and after blanks. Of a comment only the sign is
skipped. -/
def peekAfter (skipping : Bool) (rest : List Char) : Option Char :=
  if skipping then go false (rest.drop 1) else rest[1]?
where
  go (signSeen : Bool) : List Char → Option Char
    | [] => rest[1]?
    | c :: cs =>
      if Text.isBlank c then go signSeen cs
      else if !signSeen && c == '#' then go true cs
      else some c

def hexDigit? (c : Char) : Option Nat :=
  if c.isDigit then some (c.toNat - '0'.toNat)
  else if 'a' ≤ c ∧ c ≤ 'f' then some (c.toNat - 'a'.toNat + 10)
  else if 'A' ≤ c ∧ c ≤ 'F' then some (c.toNat - 'A'.toNat + 10)
  else none

def scalar (code : Nat) : Reader Char :=
  if code.isValidChar then pure (Char.ofNat code) else failure

def fixedHex : Nat → Nat → Reader Nat
  | 0, value => pure value
  | digits + 1, value => do
    match hexDigit? (← current) with
    | none => failure
    | some digit =>
      if digits = 0 then bumpSkip else bumpInside
      fixedHex digits (value * 16 + digit)

def bracedHex : Nat → Nat → Nat → Reader (Nat × Nat)
  | 0, _, _ => failure
  | fuel + 1, count, value => do
    bumpInside
    let c ← current
    if c == '\x7d' then
      bumpSkip
      pure (count, value)
    else match hexDigit? c with
      | none => failure
      | some digit => bracedHex fuel (count + 1) (value * 16 + digit)

def hexLiteral (letter : Char) : Reader Literal := do
  let digits := if letter == 'x' then 2 else if letter == 'u' then 4 else 8
  bumpInside
  if (← current) == '\x7b' then
    let (count, value) ← bracedHex (← rest).length 0 0
    require (count != 0)
    pure { char := ← scalar value }
  else
    let value ← fixedHex digits 0
    pure { char := ← scalar value, asByte := letter == 'x' }

def bracedName : Nat → List Char → Reader (List Char)
  | 0, _ => failure
  | fuel + 1, name => do
    bumpInside
    let c ← current
    if c == '\x7d' then
      bump
      pure name.reverse
    else bracedName fuel (c :: name)

def cutAt (word : List Char) : List Char → Option (List Char × List Char)
  | [] => none
  | c :: cs =>
    if word.isPrefixOf (c :: cs) then some ([], (c :: cs).drop word.length)
    else (cutAt word cs).map fun (before, after) => (c :: before, after)

def propertyOfName (text : List Char) : Property × Bool :=
  match cutAt ['!', '='] text with
  | some (name, value) => (.valued name value, true)
  | none =>
    match cutAt [':'] text with
    | some (name, value) => (.valued name value, false)
    | none =>
      match cutAt ['='] text with
      | some (name, value) => (.valued name value, false)
      | none => (.named text, false)

def property (letter : Char) : Reader (Property × Bool) := do
  let negated := letter == 'P'
  bumpInside
  let c ← current
  if c == '\x7b' then
    let (property, unequal) := propertyOfName (← bracedName (← rest).length [])
    pure (property, negated != unequal)
  else
    require (c != '\\')
    bumpSkip
    pure (.named [c], negated)

def isMeta (c : Char) : Bool :=
  ['\\', '.', '+', '*', '?', '(', ')', '|', '[', ']', '\x7b', '\x7d', '^', '$', '#', '&',
    '-', '~'].contains c

/-- ASCII characters that are neither letters nor digits may be escaped too, but for those
that mark the edges of words. -/
def isEscapable (c : Char) : Bool :=
  isMeta c || (c.toNat < 0x80 && !c.isAlphanum && c != '<' && c != '>')

def isEdgeLetter (c : Char) : Bool := c.isAlpha || c == '-'

def edgeLetters : Nat → List Char → Reader (List Char)
  | 0, word => pure word.reverse
  | fuel + 1, word => do
    match ← peek with
    | none => pure word.reverse
    | some c =>
      if isEdgeLetter c then
        bumpSkip
        edgeLetters fuel (c :: word)
      else pure word.reverse

/-- The assertion after a boundary sign: a word in braces names a particular one, and braces
with anything else belong to a repetition. -/
def boundary : Reader Assertion := do
  if (← peek) != some '\x7b' then pure .wordBoundary
  else
    let start ← rest
    bumpInside
    if !isEdgeLetter (← current) then
      setRest start
      pure .wordBoundary
    else
      let word ← edgeLetters (← rest).length []
      require ((← current) == '\x7d')
      bump
      match String.ofList word with
      | "start" => pure .wordStart
      | "end" => pure .wordEnd
      | "start-half" => pure .wordStartHalf
      | "end-half" => pure .wordEndHalf
      | _ => failure

def controlEscape? : Char → Option Char
  | 'a' => some '\x07'
  | 'f' => some '\x0c'
  | 't' => some '\t'
  | 'n' => some '\n'
  | 'r' => some '\r'
  | 'v' => some '\x0b'
  | _ => none

def perlClass? : Char → Option (PerlClass × Bool)
  | 'd' => some (.digit, false)
  | 'D' => some (.digit, true)
  | 's' => some (.space, false)
  | 'S' => some (.space, true)
  | 'w' => some (.word, false)
  | 'W' => some (.word, true)
  | _ => none

def escape : Reader Tree := do
  bump
  let c ← current
  if c.isDigit then failure
  else if c == 'x' || c == 'u' || c == 'U' then return .literal (← hexLiteral c)
  else if c == 'p' || c == 'P' then
    let (property, negated) ← property c
    return .property property negated
  else if let some (cls, negated) := perlClass? c then
    bump
    return .perl cls negated
  else
    bump
    if isEscapable c then return .literal { char := c }
    else if let some control := controlEscape? c then return .literal { char := control }
    else match c with
      | 'A' => return .assertion .startText
      | 'z' => return .assertion .endText
      | 'b' => return .assertion (← boundary)
      | 'B' => return .assertion .notWordBoundary
      | '<' => return .assertion .wordStart
      | '>' => return .assertion .wordEnd
      | _ => failure

def maxCount : Nat := 4294967295

def digits : Nat → List Char → Reader (List Char)
  | 0, found => pure found.reverse
  | fuel + 1, found => do
    match ← peek with
    | none => pure found.reverse
    | some c =>
      if c.isDigit then
        bumpSkip
        digits fuel (c :: found)
      else pure found.reverse

def dropLeadingBlanks : Reader Unit := do setRest (Text.trimStart (← rest))

/-- A decimal number with blanks around it. No digits at all are no number but no error
yet. -/
def decimal : Reader (Option Nat) := do
  dropLeadingBlanks
  let found ← digits (← rest).length []
  dropLeadingBlanks
  skip
  if found.isEmpty then pure none
  else
    let value := found.foldl (fun n c => n * 10 + (c.toNat - '0'.toNat)) 0
    if value ≤ maxCount then pure (some value) else failure

def lazySign : Reader Bool := do
  if (← peek) == some '?' then
    bump
    pure true
  else pure false

def counts : Reader (Nat × Option Nat) := do
  bumpInside
  let low ← decimal
  let range ←
    if (← current) == ',' then
      bumpInside
      if (← current) == '\x7d' then
        match low with
        | some low => pure (low, none)
        | none => failure
      else
        let high ← decimal
        match low, high with
        | some low, some high => pure (low, some high)
        | _, _ => failure
    else
      match low with
      | some low => pure (low, some low)
      | none => failure
  require ((← current) == '\x7d')
  require (range.2.all (range.1 ≤ ·))
  pure range

def flags : Nat → List FlagItem → Reader (List FlagItem)
  | 0, _ => failure
  | fuel + 1, items => do
    let c ← current
    if c == ':' || c == ')' then
      require (items.head? != some .negation)
      pure items.reverse
    else
      let item ← if c == '-' then pure FlagItem.negation
        else match Flag.ofLetter? c with
          | some flag => pure (.flag flag)
          | none => failure
      require (!items.contains item)
      bump
      let _ ← current
      flags fuel (item :: items)

def isNameStart (c : Char) : Bool := c == '_' || Unicode.alphabetic.contains c

def isNameChar (c : Char) : Bool :=
  isNameStart c || c == '.' || c == '[' || c == ']' || Unicode.numeric.contains c

def groupName : Reader Unit := do
  let cursor ← get
  let (name, rest) := cursor.rest.span (· != '>')
  match name with
  | [] => failure
  | c :: cs =>
    require (isNameStart c && cs.all isNameChar && !rest.isEmpty)
    require (!cursor.names.contains name)
    set { cursor with rest := rest.drop 1, names := name :: cursor.names }

def nextCapture : Reader Nat := do
  let cursor ← get
  set { cursor with captures := cursor.captures + 1 }
  pure (cursor.captures + 1)

def asciiSet? (rest : List Char) : Option (SetTree × List Char) :=
  match rest with
  | '[' :: ':' :: rest =>
    let (negated, rest) := match rest with
      | '^' :: rest => (true, rest)
      | rest => (false, rest)
    let (name, rest) := rest.span (· != ':')
    match rest with
    | ':' :: ']' :: rest =>
      (asciiSets.lookup (String.ofList name)).map fun ranges => (.ascii ranges negated, rest)
    | _ => none
  | _ => none

end Reader

end Redraft.Pattern
