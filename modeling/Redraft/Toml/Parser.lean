import Redraft.Toml.Number
import Redraft.Toml.Quoted

namespace Redraft.Toml

open Text

namespace Parser

def blanks : Scan Unit := Scan.skip isBlank

/-- How deep values, or the tables of a dotted key, may be nested. -/
def nestLimit : Nat := 80

def atLineEnd : Scan Bool := do
  let rest ← get
  pure (rest.isEmpty || "\n".toList.isPrefixOf rest || "\r\n".toList.isPrefixOf rest)

def comment : Scan Unit := do if ← Scan.accept "#" then Scan.skip isPlain

def lineEnd : Scan Unit := do
  blanks
  comment
  if (← get).isEmpty then pure ()
  else if ← Scan.accept "\r" then Scan.expect '\n'
  else Scan.expect '\n'

def space : (fuel : Nat) → Scan Unit
  | 0 => failure
  | fuel + 1 => do
    blanks
    comment
    if ← Scan.accept "\n" then space fuel
    else if ← Scan.accept "\r" then
      Scan.expect '\n'
      space fuel

def anySpace : Scan Unit := do space ((← get).length + 1)

def isBareKey (c : Char) : Bool := c.isAlphanum || c == '_' || c == '-'

def simpleKey : Scan Key := do
  blanks
  let key ← match ← Scan.peek with
    | some '"' => Quoted.onOneLine
    | some '\'' => Quoted.onOneLine
    | _ => Scan.some isBareKey
  blanks
  pure key

def path : Scan (List Key) := do
  let path ← Scan.separated simpleKey (Scan.accept ".") ((← get).length + 1)
  Scan.require (path.length < nestLimit)
  pure path

def entry (value : Scan Value) : Scan (List Key × Value) := do
  let path ← path
  Scan.expect '='
  blanks
  pure (path, ← value)

def items (value : Scan Value) : (fuel : Nat) → Scan (List Value)
  | 0 => failure
  | fuel + 1 => do
    anySpace
    if ← Scan.accept "]" then pure []
    else
      let first ← value
      anySpace
      if ← Scan.accept "," then pure (first :: (← items value fuel))
      else
        Scan.expect ']'
        pure [first]

def inlineEntries (value : Scan Value) : Scan (List (List Key × Value)) := do
  blanks
  if ← Scan.accept "\x7d" then pure []
  else
    let item : Scan (List Key × Value) := do
      let found ← entry value
      blanks
      pure found
    let entries ← Scan.separated item (Scan.accept ",") ((← get).length + 1)
    Scan.expect '\x7d'
    pure entries

def value : (fuel : Nat) → Scan Value
  | 0 => failure
  | fuel + 1 => do
    match ← Scan.peek with
    | some '"' => Value.text <$> Quoted.text
    | some '\'' => Value.text <$> Quoted.text
    | some '[' => do
      Scan.require (fuel != 0)
      let _ ← Scan.next
      Value.array <$> items (value fuel) ((← get).length + 1)
    | some '\x7b' => do
      Scan.require (fuel != 0)
      let _ ← Scan.next
      let body ← inlineEntries (value fuel)
      let entries ← (Entries.insertAll? [] body : Option Entries)
      pure (.table .inline entries)
    | some 't' => do
      Scan.expectWord "true"
      pure (.bool true)
    | some 'f' => do
      Scan.expectWord "false"
      pure (.bool false)
    | _ => number

inductive Line where
  | blank
  | header (path : List Key) (repeats : Bool)
  | entry (path : List Key) (value : Value)

def header : Scan Line := do
  let repeats ← Scan.accept "[["
  if !repeats then Scan.expect '['
  let path ← path
  Scan.expectWord (if repeats then "]]" else "]")
  pure (.header path repeats)

def line : Scan Line := do
  blanks
  let line ←
    if (← atLineEnd) || (← Scan.peek) == some '#' then pure .blank
    else if (← Scan.peek) == some '[' then header
    else do
      let (path, value) ← entry (value nestLimit)
      pure (.entry path value)
  lineEnd
  pure line

def lines : (fuel : Nat) → Scan (List Line)
  | 0 => failure
  | fuel + 1 => do
    if (← get).isEmpty then pure []
    else
      let line ← line
      pure (line :: (← lines fuel))

def sections : List Line → List (List Key × Value) × List Section
  | [] => ([], [])
  | .blank :: lines => sections lines
  | .entry path value :: lines =>
    let (body, rest) := sections lines
    ((path, value) :: body, rest)
  | .header path repeats :: lines =>
    let (body, rest) := sections lines
    ([], ⟨path, repeats, body⟩ :: rest)

end Parser

/-- The top table of a document. A byte order mark in front of it is skipped. -/
def parse? (text : List Char) : Option Entries := do
  let text := if text.head? = some '\uFEFF' then text.drop 1 else text
  let lines ← (Parser.lines (text.length + 1)).all? text
  let (body, sections) := Parser.sections lines
  sections.foldlM Entries.addSection? (← Entries.insertAll? [] body)

end Redraft.Toml
