import Redraft.CommandLine.Options
import Redraft.Replay.Case
import Redraft.Settings.Overlay

namespace Redraft.CommandLine

open Replay

inductive Command where
  | simulate (input : String) (overlay : Overlay) (modes : List Mode) (summaryOnly : Bool)
  | stop (stops : List String)
  | showSettings
  | saveSettings (overlay : Overlay) (path : Option String)
deriving Repr

/-- Decimal digits, with a plus sign in front or without, for a number of 64 bits. -/
def readSize? (text : String) : Option Nat :=
  let digits := match text.toList with
    | '+' :: digits => digits
    | digits => digits
  if !digits.isEmpty && digits.all Char.isDigit && Text.decimal digits < UInt64.size then
    some (Text.decimal digits)
  else none

namespace OptionForm

def size (name : String) : OptionForm := { name, accepts := fun text => (readSize? text).isSome }

def backend : OptionForm :=
  { name := "backend", accepts := fun text => (Backend.parse? text).isSome }

def path (name : String) : OptionForm := { name, accepts := fun text => !text.isEmpty }

def logLevel : OptionForm := { name := "log-level" }

end OptionForm

def simulateForms : List OptionForm := [
  .path "input", .backend, .size "num-speculative-tokens", .size "max-model-len",
  { name := "mode", accepts := fun text => (Mode.ofName? text).isSome },
  { name := "summary-only", arity := .switch }, .logLevel]

def stopForms : List OptionForm := [{ name := "stop", arity := .values }, .logLevel]

def saveForms : List OptionForm := [
  .backend, .size "num-speculative-tokens", .size "max-model-len", .size "max-sessions",
  .size "min-tail-match", .logLevel, .path "path"]

namespace Given

def size? (given : Given) (name : String) : Option Nat := given.get? name >>= readSize?

def overlay (given : Given) : Overlay :=
  { backend := given.get? "backend" >>= Backend.parse?
    speculativeTokens := given.size? "num-speculative-tokens"
    maxModelLength := given.size? "max-model-len"
    maxSessions := given.size? "max-sessions"
    minTailMatch := given.size? "min-tail-match" }

end Given

def readOnlyOptions (forms : List OptionForm) (arguments : List String) :
    Except Refusal Given := do
  match ← readOptions forms {} arguments with
  | (given, []) => pure given
  | (_, argument :: _) => .error (.unknownArgument argument)

def readSimulate (arguments : List String) : Except Refusal Command := do
  let given ← readOnlyOptions simulateForms arguments
  let input ← given.need "input"
  let modes := match given.get? "mode" >>= Mode.ofName? with
    | some mode => [mode]
    | none => Mode.all
  pure (.simulate input given.overlay modes (given.has "summary-only"))

def readStop (arguments : List String) : Except Refusal Command := do
  let given ← readOnlyOptions stopForms arguments
  let _ ← given.need "stop"
  pure (.stop (given.all "stop"))

def readSave (arguments : List String) : Except Refusal Command := do
  let given ← readOnlyOptions saveForms arguments
  pure (.saveSettings { given.overlay with logLevel := given.get? "log-level" }
    (given.get? "path"))

def explain (known : List (List String)) (names : List String) : Refusal :=
  if names ∈ known then .help else .unknownCommand (names.getLast?.getD helpName)

def readConfig (arguments : List String) : Except Refusal Command := do
  match ← readOptions [.logLevel] {} arguments with
  | (_, []) => .error .missingCommand
  | (_, "show" :: rest) => do
    let _ ← readOnlyOptions [.logLevel] rest
    pure .showSettings
  | (_, "save" :: rest) => readSave rest
  | (_, "help" :: names) => .error (explain [[], ["show"], ["save"], [helpName]] names)
  | (_, name :: _) => .error (.unknownCommand name)

def Command.read (arguments : List String) : Except Refusal Command := do
  match ← readOptions [.logLevel] {} arguments with
  | (_, []) => .error .missingCommand
  | (_, "simulate" :: rest) => readSimulate rest
  | (_, "stop" :: rest) => readStop rest
  | (_, "config" :: rest) => readConfig rest
  | (_, "help" :: names) =>
    .error (explain [[], ["simulate"], ["stop"], ["config"], ["config", "show"],
      ["config", "save"], [helpName]] names)
  | (_, name :: _) => .error (.unknownCommand name)

end Redraft.CommandLine
