import Redraft.Json.Value
import Redraft.Text.Scan

/-!
JSON numbers as doubles. The digits are taken as one whole number and rounded to a double;
this is multiplied or divided by a power of ten and rounded again. So the result may differ
from the nearest double in its last bit.
-/

namespace Redraft.Json

def powerOfTen (power : Nat) : Float := Float.ofScientific 1 false power

def movePoint (x : Float) (places : Int) : Float :=
  if 0 ≤ places then x * powerOfTen places.toNat
  else if -308 ≤ places then x / powerOfTen (-places).toNat
  else x / powerOfTen 308 / powerOfTen (-places - 308).toNat

def exponentOf : List Char → Int
  | _ :: '-' :: digits => -(Text.decimal digits : Int)
  | _ :: '+' :: digits => Text.decimal digits
  | _ :: digits => Text.decimal digits
  | [] => 0

def floatOfText (text : List Char) : Float :=
  let (mantissa, exponent) := text.span fun c => c != 'e' && c != 'E'
  let (whole, point) := mantissa.span (· != '.')
  let places := point.drop 1
  movePoint (Float.ofNat (Text.decimal (whole ++ places))) (exponentOf exponent - places.length)

def Number.float : Number → Float
  | natural n => Float.ofNat n
  | other ('-' :: text) => -floatOfText text
  | other text => floatOfText text

end Redraft.Json
