/-!
The shortest decimal that reads back as a given double. Of several the nearest is taken, and
of two equally near ones the even one. All arithmetic is exact.
-/

namespace Redraft

/-- The number `digits` with its point moved by `shift` places to the right. -/
structure Decimal where
  digits : Nat
  shift : Int
deriving DecidableEq, Repr

namespace Decimal

structure Ratio where
  num : Nat
  den : Nat
deriving DecidableEq, Repr

namespace Ratio

def scaled (n base : Nat) (power : Int) : Ratio :=
  ⟨n * Nat.pow base power.toNat, Nat.pow base (-power).toNat⟩

def le (a b : Ratio) : Bool := a.num * b.den ≤ b.num * a.den

def lt (a b : Ratio) : Bool := a.num * b.den < b.num * a.den

/-- The place of the first digit: zero for one to less than ten. -/
def magnitude (a : Ratio) : Int :=
  if a.den ≤ a.num then ((Nat.toDigits 10 (a.num / a.den)).length : Int) - 1
  else -((Nat.toDigits 10 ((a.den - 1) / a.num)).length : Int)

end Ratio

/-- A finite positive double and the numbers that round to it. -/
structure Rounding where
  low : Ratio
  value : Ratio
  high : Ratio
  /-- Whether the ends of the interval round to it as well. -/
  closed : Bool
deriving Repr

namespace Rounding

def contains (rounding : Rounding) (a : Ratio) : Bool :=
  if rounding.closed then rounding.low.le a && a.le rounding.high
  else rounding.low.lt a && a.lt rounding.high

def neighbour? (rounding : Rounding) (places : Nat) : Option Decimal :=
  let shift := rounding.value.magnitude + 1 - places
  let grid := Ratio.scaled 1 10 shift
  let num := rounding.value.num * grid.den
  let den := rounding.value.den * grid.num
  let below := num / den
  let hits (digits : Nat) : Bool := rounding.contains (.scaled digits 10 shift)
  let twiceRest := 2 * (num % den)
  let belowFirst := twiceRest < den || (twiceRest == den && below % 2 == 0)
  if hits below && (belowFirst || !hits (below + 1)) then some ⟨below, shift⟩
  else if hits (below + 1) then some ⟨below + 1, shift⟩
  else none

/-- Seventeen digits always suffice. -/
def shortest (rounding : Rounding) : Decimal :=
  ((List.range 17).findSome? fun n => rounding.neighbour? (n + 1)).getD ⟨0, 0⟩

/-- The double `mantissa * 2 ^ power`. Below a power of two the next double is only half as
far as above. -/
def ofBinary (mantissa : Nat) (power : Int) (narrowBelow : Bool) : Rounding where
  low := .scaled (4 * mantissa - if narrowBelow then 1 else 2) 2 (power - 2)
  value := .scaled mantissa 2 power
  high := .scaled (4 * mantissa + 2) 2 (power - 2)
  closed := mantissa % 2 == 0

end Rounding

def mantissaSize : Nat := Nat.pow 2 52

def magnitudeSize : Nat := Nat.pow 2 63

def ofMagnitudeBits (bits : Nat) : Rounding :=
  let field := bits / mantissaSize
  let rest := bits % mantissaSize
  if field = 0 then .ofBinary rest (-1074) false
  else .ofBinary (mantissaSize + rest) (Int.ofNat field - 1075) (rest == 0 && field != 1)

def zeros (count : Int) : String := String.ofList (List.replicate count.toNat '0')

/-- A decimal in the form of JSON numbers that are no integers: with a point from 0.00001 to
below 10 to the 16, and else with an exponent. -/
def text (decimal : Decimal) : String :=
  let digits := (Nat.toDigits 10 decimal.digits)
  let places : Int := digits.length + decimal.shift
  let whole := String.ofList digits
  if 0 ≤ decimal.shift ∧ places ≤ 16 then whole ++ zeros decimal.shift ++ ".0"
  else if 0 < places ∧ places ≤ 16 then
    String.ofList (digits.take places.toNat) ++ "." ++ String.ofList (digits.drop places.toNat)
  else if -5 < places ∧ places ≤ 0 then "0." ++ zeros (-places) ++ whole
  else
    let first := String.ofList (digits.take 1)
    let more := if digits.length = 1 then "" else "." ++ String.ofList (digits.drop 1)
    first ++ more ++ "e" ++ toString (places - 1)

def trim (decimal : Decimal) : Decimal :=
  let digits := Nat.toDigits 10 decimal.digits
  let ending := (digits.reverse.takeWhile (· == '0')).length
  ⟨decimal.digits / Nat.pow 10 ending, decimal.shift + ending⟩

def ofBits (bits : Nat) : String :=
  let magnitude := bits % magnitudeSize
  let text := if magnitude = 0 then "0.0" else (ofMagnitudeBits magnitude).shortest.trim.text
  if magnitudeSize ≤ bits then "-" ++ text else text

end Decimal

end Redraft
