import Redraft.Text.Scan
import Redraft.Toml.Value

namespace Redraft.Toml

open Text

namespace Parser

def isGrouped (isDigit : Char → Bool) : List Char → Bool
  | [] => false
  | [c] => isDigit c
  | c :: '_' :: rest => isDigit c && isGrouped isDigit rest
  | c :: rest => isDigit c && isGrouped isDigit rest

def grouped (isDigit : Char → Bool) : Scan (List Char) := do
  let found ← Scan.many fun c => isDigit c || c == '_'
  Scan.require (isGrouped isDigit found)
  pure (found.filter (· != '_'))

def sign : Scan (Option Bool) := do
  if ← Scan.accept "+" then pure (some false)
  else if ← Scan.accept "-" then pure (some true)
  else pure none

def wholeDigits : Scan (List Char) := do
  let digits ← grouped Char.isDigit
  Scan.require (digits.length == 1 || digits.head? != some '0')
  pure digits

def digitValue (c : Char) : Nat := (hexDigit? c).getD 0

def basedInteger : Scan Int := do
  let base ←
    if ← Scan.accept "0x" then pure 16
    else if ← Scan.accept "0o" then pure 8
    else do
      Scan.expectWord "0b"
      pure 2
  let digits ← grouped fun c => (hexDigit? c).any (· < base)
  pure (digits.foldl (fun n c => n * base + digitValue c) 0)

def decimalInteger : Scan Int := do
  let negative := (← sign) == some true
  let n : Int := decimal (← wholeDigits)
  pure (if negative then -n else n)

def integerLimit : Nat := UInt64.size / 2

def integer : Scan Int := do
  let n ← basedInteger <|> decimalInteger
  Scan.require (-(integerLimit : Int) ≤ n && n < integerLimit)
  pure n

/-- Whether a positive number rounds to infinity: at least halfway from the largest double
to the next power of two. The number is `mantissa` with the point moved by `shift`. -/
def isHuge (mantissa : Nat) (shift : Int) : Bool :=
  let size : Int := (Nat.toDigits 10 mantissa).length + shift
  if mantissa = 0 ∨ size < 300 then false
  else if 320 < size then true
  else
    Nat.pow 2 1024 - Nat.pow 2 970 ≤
      mantissa * Nat.pow 10 shift.toNat / Nat.pow 10 (-shift).toNat

def fraction : Scan (List Char) := do
  Scan.expect '.'
  grouped Char.isDigit

def exponent : Scan Int := do
  let e ← Scan.next
  Scan.require (e == 'e' || e == 'E')
  let negative := (← sign) == some true
  let n : Int := decimal (← grouped Char.isDigit)
  pure (if negative then -n else n)

def float : Scan Unit := do
  let negative := (← sign) == some true
  if (← Scan.accept "inf") || (← Scan.accept "nan") then pure ()
  else
    let whole ← wholeDigits
    let fraction? ← Scan.maybe fraction
    let exponent? ← Scan.maybe exponent
    Scan.require (fraction?.isSome || exponent?.isSome)
    let places := fraction?.getD []
    Scan.require
      (negative || !isHuge (decimal (whole ++ places)) (exponent?.getD 0 - places.length))

def fixed (width limit : Nat) : Scan Nat := do
  let rest ← get
  let digits := rest.take width
  Scan.require (digits.length == width && digits.all Char.isDigit)
  Scan.require (decimal digits ≤ limit)
  set (rest.drop width)
  pure (decimal digits)

def isLeapYear (year : Nat) : Bool := year % 4 == 0 && (year % 100 != 0 || year % 400 == 0)

def daysOfMonth (year month : Nat) : Nat :=
  if month = 2 then (if isLeapYear year then 29 else 28)
  else if month = 4 ∨ month = 6 ∨ month = 9 ∨ month = 11 then 30
  else 31

def date : Scan Unit := do
  let year ← fixed 4 9999
  Scan.expect '-'
  let month ← fixed 2 12
  Scan.expect '-'
  let day ← fixed 2 31
  Scan.require (1 ≤ month && 1 ≤ day && day ≤ daysOfMonth year month)

def time : Scan Unit := do
  let _ ← fixed 2 23
  Scan.expect ':'
  let _ ← fixed 2 59
  Scan.expect ':'
  let _ ← fixed 2 60
  if ← Scan.accept "." then
    let _ ← Scan.some Char.isDigit

def zone : Scan Unit := do
  let c ← Scan.next
  if c == 'Z' || c == 'z' then pure ()
  else
    Scan.require (c == '+' || c == '-')
    let _ ← fixed 2 23
    Scan.expect ':'
    let _ ← fixed 2 59

def timeOfDate : Scan Unit := do
  let c ← Scan.next
  Scan.require (c == 'T' || c == 't' || c == ' ')
  time
  let _ ← Scan.maybe zone

def moment : Scan Unit :=
  (do
    date
    let _ ← Scan.maybe timeOfDate) <|> time

def number : Scan Value :=
  (moment *> pure .moment) <|> (float *> pure .float) <|> (Value.integer <$> integer)

end Parser

end Redraft.Toml
