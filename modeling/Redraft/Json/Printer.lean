import Redraft.Decimal.Shortest
import Redraft.Json.Value
import Redraft.Text.Scan

namespace Redraft.Json

def unitText (unit : Nat) : List Char :=
  if unit = 0x22 then ['\\', '"']
  else if unit = 0x5C then ['\\', '\\']
  else if unit = 0x08 then ['\\', 'b']
  else if unit = 0x09 then ['\\', 't']
  else if unit = 0x0A then ['\\', 'n']
  else if unit = 0x0C then ['\\', 'f']
  else if unit = 0x0D then ['\\', 'r']
  else if unit < 0x20 || Units.isHighHalf unit || Units.isLowHalf unit then
    '\\' :: 'u' :: Text.hexText 4 unit
  else [Char.ofNat unit]

def Units.render (units : Units) : String :=
  "\"" ++ String.ofList (units.flatMap unitText) ++ "\""

def Number.render : Number → String
  | natural n => toString n
  | other text => String.ofList text

/-- A double as a number; one that is not finite has no number. -/
def Value.ofFloat (x : Float) : Value :=
  if x.isFinite then number (.other (Decimal.ofBits x.toBits.toNat).toList) else null

mutual

def Value.render : Value → String
  | .null => "null"
  | .bool value => if value then "true" else "false"
  | .number n => n.render
  | .string units => units.render
  | .array items => "[" ++ Value.renderItems items ++ "]"
  | .object fields => "\x7b" ++ Value.renderFields fields ++ "\x7d"

def Value.renderItems : List Value → String
  | [] => ""
  | [item] => item.render
  | item :: items => item.render ++ "," ++ Value.renderItems items

def Value.renderFields : List (Units × Value) → String
  | [] => ""
  | [(name, value)] => name.render ++ ":" ++ value.render
  | (name, value) :: fields =>
    name.render ++ ":" ++ value.render ++ "," ++ Value.renderFields fields

end

def newLine (depth : Nat) : String := "\n" ++ String.ofList (List.replicate (2 * depth) ' ')

mutual

/-- Items and fields on lines of their own, set in by two blanks. -/
def Value.renderLines (depth : Nat) : Value → String
  | .array [] => "[]"
  | .array items => "[" ++ Value.renderItemLines (depth + 1) items ++ newLine depth ++ "]"
  | .object [] => "\x7b\x7d"
  | .object fields =>
    "\x7b" ++ Value.renderFieldLines (depth + 1) fields ++ newLine depth ++ "\x7d"
  | .null => Value.render .null
  | .bool value => Value.render (.bool value)
  | .number n => n.render
  | .string units => units.render

def Value.renderItemLines (depth : Nat) : List Value → String
  | [] => ""
  | [item] => newLine depth ++ item.renderLines depth
  | item :: items =>
    newLine depth ++ item.renderLines depth ++ "," ++ Value.renderItemLines depth items

def Value.renderFieldLines (depth : Nat) : List (Units × Value) → String
  | [] => ""
  | [(name, value)] => newLine depth ++ name.render ++ ": " ++ value.renderLines depth
  | (name, value) :: fields =>
    newLine depth ++ name.render ++ ": " ++ value.renderLines depth ++ "," ++
      Value.renderFieldLines depth fields

end

end Redraft.Json
