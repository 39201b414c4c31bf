import Redraft.CommandLine.Execute

namespace Redraft.CommandLine

def now : IO Float := return Float.ofNat (← IO.monoNanosNow) / 1000000.0

/-- Where the settings are kept: below the user's configuration directory. -/
def defaultSettingsPath : IO (Option String) := do
  let file := "/specedit/config.toml"
  match ← IO.getEnv "XDG_CONFIG_HOME" with
  | some directory =>
    if directory.startsWith "/" then return some (directory ++ file)
  | none => pure ()
  match ← IO.getEnv "HOME" with
  | some home => return if home.isEmpty then none else some (home ++ "/.config" ++ file)
  | none => return none

def readBytes? (path : String) : IO (Option ByteArray) := do
  try
    return some (← IO.FS.readBinFile path)
  catch _ => return none

def textOfBytes? (bytes : ByteArray) : Option (List Char) :=
  (String.fromUTF8? bytes).map String.toList

def surroundings (command : Command) : IO Surroundings := do
  let path ← defaultSettingsPath
  let settings ← match path with
    | none => pure none
    | some path => readBytes? path
  let read : String → Option (List Char) ← match command with
    | .simulate input .. => do
      let text := (← readBytes? input) >>= textOfBytes?
      pure fun path => if path == input then text else none
    | _ => pure fun _ => none
  return { settingsPath := path
           settingsExist := settings.isSome
           settingsText := settings >>= textOfBytes?
           readText := read
           inputLines := [] }

def write (text : String) : IO Unit := do
  let output ← IO.getStdout
  output.putStr text
  output.flush

/-- Copies line by line, so that nothing waits for the end of the input. -/
partial def copyLines (buffer : Stop.Buffer) : IO Stop.CopyEnd := do
  let line ← try
      some <$> (← IO.getStdin).getLine
    catch _ => pure none
  if line == some "" then
    write (String.ofList buffer.copyRest)
    return .endOfInput
  match buffer.copyLine (line.map String.toList) with
  | (written, .error ending) =>
    write (String.ofList written)
    return ending
  | (written, .ok buffer) =>
    write (String.ofList written)
    copyLines buffer

def directoryOf (path : String) : String :=
  String.ofList (path.toList.reverse.dropWhile (· != '/')).reverse

def save (path text : String) : IO Unit := do
  let directory := directoryOf path
  unless directory.isEmpty do IO.FS.createDirAll directory
  IO.FS.writeFile path text
  IO.eprintln ("Saved config to: " ++ path)

def report (failure : Option Failure) : IO UInt32 := do
  match failure with
  | none => return 0
  | some failure =>
    IO.eprintln ("Error: " ++ failure.message)
    return 1

def execute (command : Command) : IO UInt32 := do
  match command with
  | .stop stops =>
    match usableStops stops with
    | .error failure => report (some failure)
    | .ok sequences => do report (copyFailure? (← copyLines (.new sequences)))
  | command =>
    let outcome ← command.execute now (← surroundings command)
    write outcome.output.render
    match outcome.saved with
    | none => report outcome.failure
    | some (path, text) =>
      try
        save path text
        report outcome.failure
      catch error =>
        IO.eprintln s!"Error: IO error: {error}"
        return 1

def usage : String :=
  "Usage: specedit [--log-level <LEVEL>] <COMMAND>\n\n" ++
  "Commands:\n" ++
  "  simulate     Replay recorded cases and report draft acceptance as JSON\n" ++
  "  stop         Copy stdin to stdout until a stop sequence completes\n" ++
  "  config show  Print the merged configuration and the file it came from\n" ++
  "  config save  Write configuration values to the config file\n"

def start (arguments : List String) : IO UInt32 := do
  match Command.read arguments with
  | .ok command => execute command
  | .error .help =>
    write usage
    return 0
  | .error refusal =>
    IO.eprintln ("error: " ++ refusal.message ++ "\n\n" ++ usage)
    return refusal.exitCode.toUInt32

end Redraft.CommandLine

def main (arguments : List String) : IO UInt32 := Redraft.CommandLine.start arguments
