namespace Redraft.Json

abbrev Units := List Nat

namespace Units

def ofString (text : String) : Units := text.toList.map Char.toNat

def isHighHalf (unit : Nat) : Bool := 0xD800 ≤ unit && unit ≤ 0xDBFF

def isLowHalf (unit : Nat) : Bool := 0xDC00 ≤ unit && unit ≤ 0xDFFF

/-- The characters, if every half has its other half behind it. -/
def chars? : Units → Option (List Char)
  | [] => some []
  | [unit] => if isHighHalf unit || isLowHalf unit then none else some [Char.ofNat unit]
  | unit :: next :: rest =>
    if isHighHalf unit && isLowHalf next then
      (chars? rest).map (Char.ofNat (0x10000 + (unit - 0xD800) * 0x400 + (next - 0xDC00)) :: ·)
    else if isHighHalf unit || isLowHalf unit then none
    else (chars? (next :: rest)).map (Char.ofNat unit :: ·)

def text? (units : Units) : Option String := units.chars?.map String.ofList

end Units

inductive Number where
  /-- Digits alone. -/
  | natural (n : Nat)
  /-- Any other number, as it is written. -/
  | other (text : List Char)
deriving DecidableEq, Repr

inductive Value where
  | null
  | bool (value : Bool)
  | number (number : Number)
  | string (units : Units)
  | array (items : List Value)
  | object (fields : List (Units × Value))

namespace Value

def nat (n : Nat) : Value := number (.natural n)

def text (text : String) : Value := string (.ofString text)

def record (fields : List (String × Value)) : Value :=
  object (fields.map fun (name, value) => (.ofString name, value))

def nat? (limit : Nat) : Value → Option Nat
  | number (.natural n) => if n < limit then some n else none
  | _ => none

def bool? : Value → Option Bool
  | bool value => some value
  | _ => none

def text? : Value → Option String
  | string units => units.text?
  | _ => none

def list? {α : Type} (item? : Value → Option α) : Value → Option (List α)
  | array items => items.mapM item?
  | _ => none

/-- The one value under a name. Nothing stands for a missing one; two are too many. -/
def field? (fields : List (String × Value)) (name : String) : Option (Option Value) :=
  match fields.filter (·.1 == name) with
  | [] => some none
  | [(_, value)] => some (some value)
  | _ => none

/-- The fields of a record. An object gives them by name, in any order, and may have others;
an array gives them one after the other, and may leave out the last ones. -/
def record? (names : List String) : Value → Option (List (Option Value))
  | array items =>
    if items.length ≤ names.length then
      some (items.map some ++ List.replicate (names.length - items.length) none)
    else none
  | object fields => do
    let fields ← fields.mapM fun (units, value) => units.text?.map (·, value)
    names.mapM (field? fields)
  | _ => none

def orDefault {α : Type} (decode? : Value → Option α) (default : α) : Option Value → Option α
  | none => some default
  | some value => decode? value

end Value

end Redraft.Json
