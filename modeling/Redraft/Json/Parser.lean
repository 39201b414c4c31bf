import Redraft.Json.Value
import Redraft.Text.Scan

namespace Redraft.Json

open Text

namespace Parser

def isBlank (c : Char) : Bool := c == ' ' || c == '\t' || c == '\n' || c == '\r'

def blanks : Scan Unit := Scan.skip isBlank

def escape? : Char → Option Char
  | '"' => some '"'
  | '\\' => some '\\'
  | '/' => some '/'
  | 'b' => some '\x08'
  | 'f' => some '\x0c'
  | 'n' => some '\n'
  | 'r' => some '\r'
  | 't' => some '\t'
  | _ => none

def unitsAndRest : List Char → Option (Units × List Char)
  | [] => none
  | '"' :: rest => some ([], rest)
  | '\\' :: 'u' :: a :: b :: c :: d :: rest => do
    let unit ← hexNumber? [a, b, c, d]
    let (units, rest) ← unitsAndRest rest
    pure (unit :: units, rest)
  | '\\' :: e :: rest => do
    let c ← escape? e
    let (units, rest) ← unitsAndRest rest
    pure (c.toNat :: units, rest)
  | c :: rest => do
    if c.toNat < 0x20 then none
    let (units, rest) ← unitsAndRest rest
    pure (c.toNat :: units, rest)

def units : Scan Units := do
  Scan.expect '"'
  let (units, rest) ← (unitsAndRest (← get) : Option _)
  set rest
  pure units

def wholeDigits : Scan (List Char) := do
  let digits ← Scan.some Char.isDigit
  Scan.require (digits.length == 1 || digits.head? != some '0')
  pure digits

def fraction : Scan (List Char) := do
  if ← Scan.accept "." then pure ('.' :: (← Scan.some Char.isDigit)) else pure []

def exponent : Scan (List Char) := do
  if (← Scan.peek) == some 'e' || (← Scan.peek) == some 'E' then
    let e ← Scan.next
    let sign ← if (← Scan.peek) == some '+' || (← Scan.peek) == some '-' then
        (fun c => [c]) <$> Scan.next
      else pure []
    pure (e :: sign ++ (← Scan.some Char.isDigit))
  else pure []

def number : Scan Number := do
  let negative ← Scan.accept "-"
  let whole ← wholeDigits
  let more := (← fraction) ++ (← exponent)
  if negative then pure (.other ('-' :: whole ++ more))
  else if more.isEmpty then pure (.natural (decimal whole))
  else pure (.other (whole ++ more))

def comma : Scan Bool := do
  blanks
  Scan.accept ","

def items {α : Type} (item : Scan α) (closing : Char) : Scan (List α) := do
  blanks
  if (← Scan.peek) == some closing then
    let _ ← Scan.next
    pure []
  else
    let items ← Scan.separated item comma ((← get).length + 1)
    Scan.expect closing
    pure items

def field (value : Scan Value) : Scan (Units × Value) := do
  blanks
  let name ← units
  blanks
  Scan.expect ':'
  pure (name, ← value)

/-- A value with the blanks around it. `fuel` bounds how deep it is nested. -/
def value : (fuel : Nat) → Scan Value
  | 0 => failure
  | fuel + 1 => do
    blanks
    let value ← match ← Scan.peek with
      | none => failure
      | some '"' => Value.string <$> units
      | some '[' => do
        let _ ← Scan.next
        Value.array <$> items (value fuel) ']'
      | some '\x7b' => do
        let _ ← Scan.next
        Value.object <$> items (field (value fuel)) '\x7d'
      | some 'n' => do
        Scan.expectWord "null"
        pure .null
      | some 't' => do
        Scan.expectWord "true"
        pure (.bool true)
      | some 'f' => do
        Scan.expectWord "false"
        pure (.bool false)
      | some _ => Value.number <$> number
    blanks
    pure value

end Parser

def Value.parse? (text : List Char) : Option Value :=
  (Parser.value (text.length + 1)).all? text

end Redraft.Json
