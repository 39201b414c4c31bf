namespace Redraft.Toml

abbrev Key := List Char

inductive Origin where
  /-- Has a header of its own. -/
  | header
  /-- Named only on the way to another header. -/
  | implied
  /-- Made by a dotted key. -/
  | dotted
  /-- Written between braces; nothing can be added. -/
  | inline
deriving DecidableEq, Repr

inductive Value where
  | text (text : List Char)
  | integer (n : Int)
  | float
  | bool (value : Bool)
  /-- A date, a time of day, or both. -/
  | moment
  | array (items : List Value)
  | table (origin : Origin) (entries : List (Key × Value))
  /-- Tables under one header that is written with double brackets. -/
  | tables (tables : List (List (Key × Value)))

abbrev Entries := List (Key × Value)

namespace Entries

def find? (entries : Entries) (key : Key) : Option Value := entries.lookup key

def put (entries : Entries) (key : Key) (value : Value) : Entries :=
  match entries with
  | [] => [(key, value)]
  | (other, old) :: entries =>
    if other == key then (key, value) :: entries else (other, old) :: put entries key value

/-- Adds a value under a key that is given with the tables on the way to it. -/
def insert? (entries : Entries) : (path : List Key) → (value : Value) → Option Entries
  | [], _ => none
  | [key], value =>
    match entries.find? key with
    | some _ => none
    | none => some (entries.put key value)
  | key :: next :: path, value =>
    match entries.find? key with
    | none => do
      let inner ← insert? [] (next :: path) value
      some (entries.put key (.table .dotted inner))
    | some (.table .dotted inner) => do
      let inner ← insert? inner (next :: path) value
      some (entries.put key (.table .dotted inner))
    | some (.table .implied inner) => do
      if path.isEmpty then none
      let inner ← insert? inner (next :: path) value
      some (entries.put key (.table .implied inner))
    | some (.tables tables) => do
      if path.isEmpty then none
      let inner ← insert? (tables.getLast?.getD []) (next :: path) value
      some (entries.put key (.tables (tables.dropLast ++ [inner])))
    | some _ => none

def insertAll? (entries : Entries) (body : List (List Key × Value)) : Option Entries :=
  body.foldlM (fun entries (path, value) => entries.insert? path value) entries

/-- Changes the table that a header's path leads to. Tables on the way that are missing are
made. -/
def changeAt? (entries : Entries) (change : Entries → Option Entries) :
    (path : List Key) → Option Entries
  | [] => change entries
  | key :: path =>
    match entries.find? key with
    | none => do
      let inner ← changeAt? [] change path
      some (entries.put key (.table .implied inner))
    | some (.table .inline _) => none
    | some (.table origin inner) => do
      let inner ← changeAt? inner change path
      some (entries.put key (.table origin inner))
    | some (.tables tables) => do
      let inner ← changeAt? (tables.getLast?.getD []) change path
      some (entries.put key (.tables (tables.dropLast ++ [inner])))
    | some _ => none

end Entries

structure Section where
  path : List Key
  /-- Written with double brackets. -/
  repeats : Bool
  body : List (List Key × Value)

/-- Adds a section. A table has one header at most, unless its header repeats. -/
def Entries.addSection? (entries : Entries) (added : Section) : Option Entries :=
  match added.path.getLast? with
  | none => none
  | some key =>
    entries.changeAt? (fun inner =>
      match inner.find? key, added.repeats with
      | none, true => do inner.put key (.tables [← Entries.insertAll? [] added.body])
      | some (.tables tables), true => do
        inner.put key (.tables (tables ++ [← Entries.insertAll? [] added.body]))
      | none, false => do inner.put key (.table .header (← Entries.insertAll? [] added.body))
      | some (.table .implied old), false => do
        inner.put key (.table .header (← Entries.insertAll? old added.body))
      | _, _ => none) added.path.dropLast

end Redraft.Toml
