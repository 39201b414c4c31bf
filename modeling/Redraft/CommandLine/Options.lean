namespace Redraft.CommandLine

inductive Arity where
  /-- Stands alone. -/
  | switch
  | value
  /-- May be given several times. -/
  | values
deriving DecidableEq, Repr

structure OptionForm where
  name : String
  arity : Arity := .value
  /-- Which values it takes. -/
  accepts : String → Bool := fun _ => true

inductive Refusal where
  /-- An explanation was asked for. -/
  | help
  | unknownArgument (argument : String)
  | repeatedOption (name : String)
  | missingValue (name : String)
  | unwantedValue (name : String)
  | invalidValue (name value : String)
  | missingOption (name : String)
  | missingCommand
  | unknownCommand (name : String)
deriving DecidableEq, Repr

namespace Refusal

def message : Refusal → String
  | help => "help was asked for"
  | unknownArgument argument => "unexpected argument '" ++ argument ++ "' found"
  | repeatedOption name => "the argument '--" ++ name ++ "' cannot be used multiple times"
  | missingValue name => "a value is required for '--" ++ name ++ "' but none was supplied"
  | unwantedValue name => "unexpected value for '--" ++ name ++ "' found"
  | invalidValue name value => "invalid value '" ++ value ++ "' for '--" ++ name ++ "'"
  | missingOption name => "the following required arguments were not provided: --" ++ name
  | missingCommand => "a subcommand is required but none was provided"
  | unknownCommand name => "unrecognized subcommand '" ++ name ++ "'"

def exitCode : Refusal → Nat
  | help => 0
  | _ => 2

end Refusal

structure Given where
  options : List (String × String) := []
deriving Repr

namespace Given

def all (given : Given) (name : String) : List String :=
  given.options.filterMap fun (other, value) => if other == name then some value else none

def get? (given : Given) (name : String) : Option String := given.options.lookup name

def has (given : Given) (name : String) : Bool := given.options.any (·.1 == name)

def need (given : Given) (name : String) : Except Refusal String :=
  match given.get? name with
  | some value => .ok value
  | none => .error (.missingOption name)

end Given

def helpName : String := "help"

def looksLikeOption (argument : String) : Bool :=
  argument.startsWith "-" && argument != "-"

def Given.add (given : Given) (form : OptionForm) (value : String) : Except Refusal Given :=
  if form.arity != .values && given.has form.name then .error (.repeatedOption form.name)
  else if !form.accepts value then .error (.invalidValue form.name value)
  else .ok ⟨given.options ++ [(form.name, value)]⟩

def splitOption (argument : String) : String × Option String :=
  match (argument.toList.drop 2).span (· != '=') with
  | (name, []) => (String.ofList name, none)
  | (name, _ :: value) => (String.ofList name, some (String.ofList value))

/-- Reads options. What is left begins with the first argument that is none. Behind two
hyphens nothing may follow. -/
def readOptions (forms : List OptionForm) (given : Given) :
    List String → Except Refusal (Given × List String)
  | [] => .ok (given, [])
  | argument :: rest =>
    if !looksLikeOption argument then .ok (given, argument :: rest)
    else if argument == "--" then
      match rest with
      | [] => .ok (given, [])
      | next :: _ => .error (.unknownArgument next)
    else if !argument.startsWith "--" then
      .error (if argument.startsWith "-h" then .help else .unknownArgument argument)
    else
      match splitOption argument with
      | (name, joined) =>
        if name == helpName then .error (if joined.isNone then .help else .unwantedValue name)
        else
          match forms.find? (·.name == name), joined, rest with
          | none, _, _ => .error (.unknownArgument argument)
          | some form, some value, rest =>
            if form.arity == .switch then .error (.unwantedValue name)
            else do readOptions forms (← given.add form value) rest
          | some form, none, [] =>
            if form.arity == .switch then do readOptions forms (← given.add form "") []
            else .error (.missingValue name)
          | some form, none, value :: rest =>
            if form.arity == .switch then do
              readOptions forms (← given.add form "") (value :: rest)
            else if looksLikeOption value then .error (.missingValue name)
            else do readOptions forms (← given.add form value) rest

end Redraft.CommandLine
