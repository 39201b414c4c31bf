import Redraft.Text.Scan

namespace Redraft.Toml

open Text

/-- May stand in a text or a comment: no control character but the tab. -/
def isPlain (c : Char) : Bool := c == '\t' || (0x20 ≤ c.toNat && c.toNat != 0x7F)

def isBlank (c : Char) : Bool := c == ' ' || c == '\t'

namespace Quoted

def escape? : Char → Option Char
  | '"' => some '"'
  | '\\' => some '\\'
  | 'b' => some '\x08'
  | 'f' => some '\x0c'
  | 'n' => some '\n'
  | 'r' => some '\r'
  | 't' => some '\t'
  | _ => none

def scalar? (digits : List Char) : Option Char := do
  let n ← hexNumber? digits
  if n < 0xD800 ∨ (0xE000 ≤ n ∧ n < 0x110000) then some (Char.ofNat n) else none

def found (c : Char) (rest : Option (List Char × List Char)) : Option (List Char × List Char) :=
  rest.map fun (text, rest) => (c :: text, rest)

def basic : List Char → Option (List Char × List Char)
  | [] => none
  | '"' :: rest => some ([], rest)
  | '\\' :: 'u' :: a :: b :: c :: d :: rest => do
    found (← scalar? [a, b, c, d]) (basic rest)
  | '\\' :: 'U' :: a :: b :: c :: d :: e :: f :: g :: h :: rest => do
    found (← scalar? [a, b, c, d, e, f, g, h]) (basic rest)
  | '\\' :: e :: rest => do found (← escape? e) (basic rest)
  | c :: rest => if isPlain c && c != '\\' then found c (basic rest) else none

def literal : List Char → Option (List Char × List Char)
  | [] => none
  | '\'' :: rest => some ([], rest)
  | c :: rest => if isPlain c then found c (literal rest) else none

/-- What a backslash at the end of a line does to the text behind it. -/
inductive Folding where
  | none
  /-- The line must end here. -/
  | untilLineEnd
  /-- Blanks and line ends are left out. -/
  | untilText
deriving DecidableEq, Repr

/-- The text up to three closing quotes, in front of which there may be two more. -/
def basicLines (folding : Folding) : List Char → Option (List Char × List Char)
  | [] => none
  | '\r' :: '\n' :: rest =>
    match folding with
    | .none => found '\n' (basicLines .none rest)
    | _ => basicLines .untilText rest
  | '\n' :: rest =>
    match folding with
    | .none => found '\n' (basicLines .none rest)
    | _ => basicLines .untilText rest
  | '\\' :: 'u' :: a :: b :: c :: d :: rest =>
    if folding = .untilLineEnd then none
    else do found (← scalar? [a, b, c, d]) (basicLines .none rest)
  | '\\' :: 'U' :: a :: b :: c :: d :: e :: f :: g :: h :: rest =>
    if folding = .untilLineEnd then none
    else do found (← scalar? [a, b, c, d, e, f, g, h]) (basicLines .none rest)
  | '\\' :: c :: rest =>
    if folding = .untilLineEnd then none
    else if isBlank c then basicLines .untilLineEnd rest
    else if c == '\n' then basicLines .untilText rest
    else if c == '\r' then
      match rest with
      | '\n' :: rest => basicLines .untilText rest
      | _ => none
    else do found (← escape? c) (basicLines .none rest)
  | '"' :: '"' :: '"' :: rest =>
    if folding = .untilLineEnd then none
    else
      match rest with
      | '"' :: '"' :: rest => some (['"', '"'], rest)
      | '"' :: rest => some (['"'], rest)
      | rest => some ([], rest)
  | c :: rest =>
    if isBlank c && folding != .none then basicLines folding rest
    else if folding = .untilLineEnd then none
    else if isPlain c && c != '\\' then found c (basicLines .none rest)
    else none

def literalLines : List Char → Option (List Char × List Char)
  | [] => none
  | '\r' :: '\n' :: rest => found '\n' (literalLines rest)
  | '\'' :: '\'' :: '\'' :: rest =>
    match rest with
    | '\'' :: '\'' :: rest => some (['\'', '\''], rest)
    | '\'' :: rest => some (['\''], rest)
    | rest => some ([], rest)
  | c :: rest => if isPlain c || c == '\n' then found c (literalLines rest) else none

def dropFirstLineEnd : List Char → List Char
  | '\r' :: '\n' :: rest => rest
  | '\n' :: rest => rest
  | text => text

def scan (read : List Char → Option (List Char × List Char)) : Scan (List Char) := do
  let (text, rest) ← (read (← get) : Option _)
  set rest
  pure text

def onOneLine : Scan (List Char) := do
  if ← Scan.accept "\"" then scan basic
  else
    Scan.expect '\''
    scan literal

def text : Scan (List Char) := do
  if ← Scan.accept "\"\"\"" then scan (basicLines .none ∘ dropFirstLineEnd)
  else if ← Scan.accept "'''" then scan (literalLines ∘ dropFirstLineEnd)
  else onOneLine

def longestRun (mark : Char) (text : List Char) : Nat :=
  (text.foldl (fun (run, longest) c =>
    let run := if c == mark then run + 1 else 0
    (run, max longest run)) (0, 0)).2

/-- Writes text between quotes of which up to `quotes` may stand in a row. -/
def encode (quotes : Nat) (onLines : Bool) : (run : Nat) → List Char → List Char
  | _, [] => []
  | run, c :: rest =>
    if c == '"' then
      if run < quotes then '"' :: encode quotes onLines (run + 1) rest
      else '\\' :: '"' :: encode quotes onLines 0 rest
    else
      let written := match c with
        | '\x08' => ['\\', 'b']
        | '\t' => ['\\', 't']
        | '\n' => if onLines then ['\n'] else ['\\', 'n']
        | '\x0c' => ['\\', 'f']
        | '\r' => ['\\', 'r']
        | '\\' => ['\\', '\\']
        | c =>
          if isPlain c then [c] else '\\' :: 'u' :: (hexText 4 c.toNat).map Char.toUpper
      written ++ encode quotes onLines 0 rest

def render (text : List Char) : List Char :=
  let newline := text.contains '\n'
  let backslash := text.contains '\\'
  let control := text.any fun c => !isPlain c && c != '\n'
  let doubles := longestRun '"' text
  let singles := longestRun '\'' text
  let start := if newline then ['\n'] else []
  let plain := !control && !backslash
  let single := ['\'']
  let triple := List.replicate 3 '\''
  let onOneLine := ['"'] ++ encode 0 false 0 text ++ ['"']
  let onLines :=
    List.replicate 3 '"' ++ start ++ encode 2 true 0 text ++ List.replicate 3 '"'
  if plain && doubles == 0 && !newline then onOneLine
  else if !control && singles == 0 && !newline then single ++ text ++ single
  else if plain && doubles ≤ 2 then onLines
  else if !control && singles ≤ 2 then triple ++ start ++ text ++ triple
  else if newline then onLines
  else onOneLine

example : render "it's".toList = "\"it's\"".toList := by decide +kernel

example : render "a\\b".toList = "'a\\b'".toList := by decide +kernel

example : render "a\"\n".toList = "\"\"\"\na\"\n\"\"\"".toList := by decide +kernel

end Quoted

end Redraft.Toml
