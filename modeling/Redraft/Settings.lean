import Redraft.Backend
import Redraft.Align.Finder

namespace Redraft

def maxDraftLength : Nat := 128

structure Settings where
  backend : Backend := .sequential
  /-- Draft tokens asked for per step. -/
  speculativeTokens : Nat := 40
  /-- Model context limit, which no draft runs past. -/
  maxModelLength : Nat := 8192
  /-- Live sessions kept before the oldest is dropped. -/
  maxSessions : Nat := 1000
  /-- Whether a backend that cannot be built is an error. -/
  strictBackend : Bool := false
  speculativeEdit : Bool := true
  ngramFallback : Bool := true
  matching : MatchSettings := {}
deriving DecidableEq, Repr

inductive SettingsError where
  | noSpeculativeTokens
  | tooManySpeculativeTokens (count : Nat)
  | noModelLength
  | noSessions
  | noWindowDivisor
  | noReferenceFactor
  | unknownBackend (text : String)
  | unavailableBackend (backend : Backend)
deriving DecidableEq, Repr

namespace SettingsError

def invalidMessage (reason : String) : String := "invalid configuration: " ++ reason

def message : SettingsError → String
  | noSpeculativeTokens => invalidMessage "num_speculative_tokens must be at least 1"
  | tooManySpeculativeTokens count =>
    invalidMessage s!"num_speculative_tokens {count} exceeds the maximum of {maxDraftLength}"
  | noModelLength => invalidMessage "max_model_len must be positive"
  | noSessions => invalidMessage "max_sessions must be positive"
  | noWindowDivisor => invalidMessage "matcher.window.divisor must be positive"
  | noReferenceFactor => invalidMessage "matcher.window.reference_factor must be positive"
  | unknownBackend text => invalidMessage ("unknown matcher backend '" ++ text ++ "'")
  | unavailableBackend backend => "matcher backend '" ++ backend.name ++ "' is not compiled in"

end SettingsError

namespace Backend

def parse (text : String) : Except SettingsError Backend :=
  match parse? text with
  | some backend => .ok backend
  | none => .error (.unknownBackend text)

/-- The backend to build. In place of one that cannot be built the sequential one is taken,
or it is an error if the choice is strict. -/
def resolveAmong (choices : List Backend) (backend : Backend) (strict : Bool) :
    Except SettingsError Backend :=
  if backend ∈ choices then .ok backend
  else if strict then .error (.unavailableBackend backend)
  else .ok .sequential

def resolve (backend : Backend) (strict : Bool) : Except SettingsError Backend :=
  resolveAmong available backend strict

@[simp] theorem resolve_available (backend : Backend) (strict : Bool) :
    backend.resolve strict = .ok backend := by
  cases backend <;> cases strict <;> rfl

end Backend

namespace Settings

def validate (settings : Settings) : Except SettingsError Unit :=
  if settings.speculativeTokens = 0 then .error .noSpeculativeTokens
  else if maxDraftLength < settings.speculativeTokens then
    .error (.tooManySpeculativeTokens settings.speculativeTokens)
  else if settings.maxModelLength = 0 then .error .noModelLength
  else if settings.maxSessions = 0 then .error .noSessions
  else if settings.matching.window.divisor = 0 then .error .noWindowDivisor
  else if settings.matching.window.referenceFactor = 0 then .error .noReferenceFactor
  else .ok ()

def resolved (settings : Settings) : Except SettingsError Settings := do
  settings.validate
  let backend ← settings.backend.resolve settings.strictBackend
  pure { settings with backend }

theorem resolved_of_validate {settings : Settings} (h : settings.validate = .ok ()) :
    settings.resolved = .ok settings := by
  simp [resolved, h, bind, Except.bind, pure, Except.pure]

end Settings

end Redraft
