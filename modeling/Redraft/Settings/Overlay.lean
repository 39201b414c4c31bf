import Redraft.Settings
import Redraft.Toml.Parser

namespace Redraft

open Toml

structure Overlay where
  backend : Option Backend := none
  speculativeTokens : Option Nat := none
  maxModelLength : Option Nat := none
  maxSessions : Option Nat := none
  strictBackend : Option Bool := none
  speculativeEdit : Option Bool := none
  ngramFallback : Option Bool := none
  windowDivisor : Option Nat := none
  minWindow : Option Nat := none
  referenceFactor : Option Nat := none
  autojunk : Option Bool := none
  minTailMatch : Option Nat := none
  /-- What the log tells when nothing else says so. -/
  logLevel : Option String := none
deriving DecidableEq, Repr

namespace Overlay

def merge (lower upper : Overlay) : Overlay where
  backend := upper.backend.or lower.backend
  speculativeTokens := upper.speculativeTokens.or lower.speculativeTokens
  maxModelLength := upper.maxModelLength.or lower.maxModelLength
  maxSessions := upper.maxSessions.or lower.maxSessions
  strictBackend := upper.strictBackend.or lower.strictBackend
  speculativeEdit := upper.speculativeEdit.or lower.speculativeEdit
  ngramFallback := upper.ngramFallback.or lower.ngramFallback
  windowDivisor := upper.windowDivisor.or lower.windowDivisor
  minWindow := upper.minWindow.or lower.minWindow
  referenceFactor := upper.referenceFactor.or lower.referenceFactor
  autojunk := upper.autojunk.or lower.autojunk
  minTailMatch := upper.minTailMatch.or lower.minTailMatch
  logLevel := upper.logLevel.or lower.logLevel

/-- The defaults with what the overlay names. They need not be valid. -/
def settings (overlay : Overlay) : Settings :=
  let default : Settings := {}
  let window := default.matching.window
  { backend := overlay.backend.getD default.backend
    speculativeTokens := overlay.speculativeTokens.getD default.speculativeTokens
    maxModelLength := overlay.maxModelLength.getD default.maxModelLength
    maxSessions := overlay.maxSessions.getD default.maxSessions
    strictBackend := overlay.strictBackend.getD default.strictBackend
    speculativeEdit := overlay.speculativeEdit.getD default.speculativeEdit
    ngramFallback := overlay.ngramFallback.getD default.ngramFallback
    matching :=
      { window :=
          { divisor := overlay.windowDivisor.getD window.divisor
            minLength := overlay.minWindow.getD window.minLength
            referenceFactor := overlay.referenceFactor.getD window.referenceFactor }
        autojunk := overlay.autojunk.getD default.matching.autojunk
        minTailMatch := overlay.minTailMatch.getD default.matching.minTailMatch } }

@[simp] theorem merge_empty_right (overlay : Overlay) : overlay.merge {} = overlay := by
  simp [merge]

@[simp] theorem merge_empty_left (overlay : Overlay) : merge {} overlay = overlay := by
  simp [merge]

@[simp] theorem settings_empty : settings {} = {} := rfl

theorem merge_assoc (a b c : Overlay) : (a.merge b).merge c = a.merge (b.merge c) := by
  simp [merge, Option.or_assoc]

end Overlay

/-- A backend is given by its name, or as the one empty table or array under its name. -/
def Backend.ofToml? : Toml.Value → Option Backend
  | .text name => ofName? (String.ofList name)
  | .table _ [(name, .table _ [])] => ofName? (String.ofList name)
  | .table _ [(name, .array [])] => ofName? (String.ofList name)
  | _ => none

def Toml.Value.nat? : Toml.Value → Option Nat
  | .integer (.ofNat n) => some n
  | _ => none

def Toml.Value.bool? : Toml.Value → Option Bool
  | .bool value => some value
  | _ => none

def Toml.Value.string? : Toml.Value → Option String
  | .text chars => some (String.ofList chars)
  | _ => none

namespace Overlay

def ofToml? (entries : Toml.Entries) : Option Overlay := do
  let get {α : Type} (decode? : Toml.Value → Option α) (name : String) : Option (Option α) :=
    match entries.find? name.toList with
    | none => some none
    | some value => (decode? value).map some
  pure
    { backend := ← get Backend.ofToml? "backend"
      speculativeTokens := ← get Toml.Value.nat? "num_speculative_tokens"
      maxModelLength := ← get Toml.Value.nat? "max_model_len"
      maxSessions := ← get Toml.Value.nat? "max_sessions"
      strictBackend := ← get Toml.Value.bool? "strict_backend"
      speculativeEdit := ← get Toml.Value.bool? "spec_edit_enabled"
      ngramFallback := ← get Toml.Value.bool? "ngram_fallback_enabled"
      windowDivisor := ← get Toml.Value.nat? "window_divisor"
      minWindow := ← get Toml.Value.nat? "min_window"
      referenceFactor := ← get Toml.Value.nat? "reference_factor"
      autojunk := ← get Toml.Value.bool? "autojunk"
      minTailMatch := ← get Toml.Value.nat? "min_tail_match"
      logLevel := ← get Toml.Value.string? "log_level" }

def parse? (text : List Char) : Option Overlay := Toml.parse? text >>= ofToml?

/-- One line for every setting that is named, unless a number is too large for a file. -/
def lines? (overlay : Overlay) : Option (List String) := do
  let line {α : Type} (name : String) (value : Option α) (write? : α → Option String) :
      Option (List String) :=
    match value with
    | none => some []
    | some value => do some [name ++ " = " ++ (← write? value)]
  let size (n : Nat) : Option String := if n < Toml.Parser.integerLimit then some (toString n) else none
  let switch (b : Bool) : Option String := some (if b then "true" else "false")
  let text (t : String) : Option String :=
    some (String.ofList (Toml.Quoted.render t.toList))
  let lines ← [
    line "backend" overlay.backend (fun backend => text backend.name),
    line "num_speculative_tokens" overlay.speculativeTokens size,
    line "max_model_len" overlay.maxModelLength size,
    line "max_sessions" overlay.maxSessions size,
    line "strict_backend" overlay.strictBackend switch,
    line "spec_edit_enabled" overlay.speculativeEdit switch,
    line "ngram_fallback_enabled" overlay.ngramFallback switch,
    line "window_divisor" overlay.windowDivisor size,
    line "min_window" overlay.minWindow size,
    line "reference_factor" overlay.referenceFactor size,
    line "autojunk" overlay.autojunk switch,
    line "min_tail_match" overlay.minTailMatch size,
    line "log_level" overlay.logLevel text].mapM id
  some lines.flatten

def render? (overlay : Overlay) : Option String := do
  pure (String.join ((← overlay.lines?).map (· ++ "\n")))

end Overlay

end Redraft
