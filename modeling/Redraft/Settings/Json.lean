import Redraft.Json.Parser
import Redraft.Settings

namespace Redraft

open Json

def sizeLimit : Nat := UInt64.size

/-- A backend is given by its name, or as an object with its name alone. -/
def Backend.ofJson? : Value → Option Backend
  | .string units => units.text? >>= ofName?
  | .object [(units, .null)] => units.text? >>= ofName?
  | _ => none

def Window.ofJson? (value : Value) : Option Window := do
  let [divisor, minLength, referenceFactor] ←
    value.record? ["divisor", "min_window", "reference_factor"] | none
  let default : Window := {}
  pure
    { divisor := ← Value.orDefault (Value.nat? sizeLimit) default.divisor divisor
      minLength := ← Value.orDefault (Value.nat? sizeLimit) default.minLength minLength
      referenceFactor :=
        ← Value.orDefault (Value.nat? sizeLimit) default.referenceFactor referenceFactor }

def MatchSettings.ofJson? (value : Value) : Option MatchSettings := do
  let [window, autojunk, minTailMatch] ←
    value.record? ["window", "autojunk", "min_tail_match"] | none
  let default : MatchSettings := {}
  pure
    { window := ← Value.orDefault Window.ofJson? default.window window
      autojunk := ← Value.orDefault Value.bool? default.autojunk autojunk
      minTailMatch := ← Value.orDefault (Value.nat? sizeLimit) default.minTailMatch minTailMatch }

namespace Settings

def ofJson? (value : Value) : Option Settings := do
  let [backend, speculativeTokens, maxModelLength, maxSessions, strictBackend,
      speculativeEdit, ngramFallback, matching] ←
    value.record? ["backend", "num_speculative_tokens", "max_model_len", "max_sessions",
      "strict_backend", "spec_edit_enabled", "ngram_fallback_enabled", "matcher"] | none
  let default : Settings := {}
  let size := Value.orDefault (Value.nat? sizeLimit)
  let switch := Value.orDefault Value.bool?
  pure
    { backend := ← Value.orDefault Backend.ofJson? default.backend backend
      speculativeTokens := ← size default.speculativeTokens speculativeTokens
      maxModelLength := ← size default.maxModelLength maxModelLength
      maxSessions := ← size default.maxSessions maxSessions
      strictBackend := ← switch default.strictBackend strictBackend
      speculativeEdit := ← switch default.speculativeEdit speculativeEdit
      ngramFallback := ← switch default.ngramFallback ngramFallback
      matching := ← Value.orDefault MatchSettings.ofJson? default.matching matching }

def parse? (text : List Char) : Option Settings := Value.parse? text >>= ofJson?

def toJson (settings : Settings) : Value :=
  let window := settings.matching.window
  .record [
    ("backend", .text settings.backend.name),
    ("num_speculative_tokens", .nat settings.speculativeTokens),
    ("max_model_len", .nat settings.maxModelLength),
    ("max_sessions", .nat settings.maxSessions),
    ("strict_backend", .bool settings.strictBackend),
    ("spec_edit_enabled", .bool settings.speculativeEdit),
    ("ngram_fallback_enabled", .bool settings.ngramFallback),
    ("matcher", .record [
      ("window", .record [
        ("divisor", .nat window.divisor),
        ("min_window", .nat window.minLength),
        ("reference_factor", .nat window.referenceFactor)]),
      ("autojunk", .bool settings.matching.autojunk),
      ("min_tail_match", .nat settings.matching.minTailMatch)])]

end Settings

end Redraft
