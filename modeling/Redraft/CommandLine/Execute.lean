import Redraft.CommandLine.Command
import Redraft.Json.Printer
import Redraft.Pattern.Engine
import Redraft.Replay.CaseFile
import Redraft.Replay.ReportJson
import Redraft.Settings.Json
import Redraft.Stop.Copy

namespace Redraft.CommandLine

open Replay

structure Surroundings where
  /-- Where the settings are kept. -/
  settingsPath : Option String
  /-- Whether a file is there. -/
  settingsExist : Bool
  settingsText : Option (List Char)
  /-- The text of another file, if it can be read. -/
  readText : String → Option (List Char)
  /-- The lines of standard input; nothing stands for one that is not text. -/
  inputLines : List (Option (List Char))

inductive Failure where
  | unreadableCases (path : String)
  | invalidCases (path : String)
  | settings (error : SettingsError)
  | noStopSequences
  | brokenInput
  | invalidSettings
  | numberTooLarge
  | noSettingsPath
deriving DecidableEq, Repr

def Failure.message : Failure → String
  | unreadableCases path => "failed to read cases from " ++ path
  | invalidCases path => "invalid cases in " ++ path
  | settings error => error.message
  | noStopSequences => "no usable stop patterns given"
  | brokenInput => "failed to copy stdin"
  | invalidSettings => "refusing to save invalid configuration"
  | numberTooLarge => "serialize error: out-of-range value for u64 type"
  | noSettingsPath => "no config directory available"

inductive Output where
  | text (text : String)
  | report (report : Report)
  | summary (summary : List ModeSummary)

def Output.render : Output → String
  | .text written => written
  | .report whole => whole.toJson.renderLines 0 ++ "\n"
  | .summary modes => (summaryToJson modes).renderLines 0 ++ "\n"

structure Outcome where
  output : Output := .text ""
  /-- The path and the text of a file to write. -/
  saved : Option (String × String) := none
  failure : Option Failure := none

namespace Outcome

def failed (failure : Failure) : Outcome := { failure := some failure }

def exitCode (outcome : Outcome) : Nat := if outcome.failure.isSome then 1 else 0

end Outcome

/-- The settings in the file. A file that is missing or malformed names none. -/
def Surroundings.overlay (around : Surroundings) : Overlay :=
  (around.settingsText >>= Overlay.parse?).getD {}

def simulateCases {m : Type → Type} [Monad m] (now : m Float) (around : Surroundings)
    (input : String) (overlay : Overlay) (modes : List Mode) (summaryOnly : Bool) :
    m Outcome := do
  match around.readText input with
  | none => pure (.failed (.unreadableCases input))
  | some text =>
    match parseCases text with
    | .error _ => pure (.failed (.invalidCases input))
    | .ok cases =>
      match ← run now (around.overlay.merge overlay).settings cases modes with
      | .error error => pure (.failed (.settings error))
      | .ok report =>
        pure { output := if summaryOnly then .summary report.summary else .report report }

def usableStops (stops : List String) : Except Failure (List Stop.Sequence) :=
  match Stop.sequences Pattern.engine (stops.map String.toList) with
  | [] => .error .noStopSequences
  | sequences => .ok sequences

def copyFailure? : Stop.CopyEnd → Option Failure
  | .invalidLine => some .brokenInput
  | _ => none

def copyInput (around : Surroundings) (stops : List String) : Outcome :=
  match usableStops stops with
  | .error failure => .failed failure
  | .ok sequences =>
    let copied := Stop.copy sequences around.inputLines
    { output := .text (String.ofList copied.written), failure := copyFailure? copied.ending }

def showSettings (around : Surroundings) : Outcome :=
  match around.overlay.render? with
  | none => .failed .numberTooLarge
  | some text =>
    let place := match around.settingsPath with
      | none => "# no config directory available"
      | some path =>
        "# " ++ path ++ if around.settingsExist then "" else " (not present, showing defaults)"
    { output := .text (place ++ "\n" ++ text ++ "\n# effective: " ++
        around.overlay.settings.toJson.render ++ "\n") }

def saveSettings (around : Surroundings) (overlay : Overlay) (path : Option String) : Outcome :=
  let overlay := around.overlay.merge overlay
  match overlay.settings.validate, path.or around.settingsPath, overlay.render? with
  | .error _, _, _ => .failed .invalidSettings
  | .ok _, none, _ => .failed .noSettingsPath
  | .ok _, some _, none => .failed .numberTooLarge
  | .ok _, some path, some text => { saved := some (path, text) }

def Command.execute {m : Type → Type} [Monad m] (now : m Float) (around : Surroundings) :
    Command → m Outcome
  | simulate input overlay modes summaryOnly =>
    simulateCases now around input overlay modes summaryOnly
  | stop stops => pure (copyInput around stops)
  | showSettings => pure (CommandLine.showSettings around)
  | saveSettings overlay path => pure (CommandLine.saveSettings around overlay path)

end Redraft.CommandLine
