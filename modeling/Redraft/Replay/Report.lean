import Redraft.Draft.Lookup
import Redraft.Draft.Slots
import Redraft.Replay.Metrics

namespace Redraft.Replay

open Draft

structure CaseReport where
  id : String
  mode : Mode
  metrics : Metrics

structure ModeSummary where
  mode : Mode
  summary : Summary

structure Report where
  backend : Backend
  speculativeTokens : Nat
  cases : List CaseReport := []
  summary : List ModeSummary := []

def fallback : Fallback Unit := Lookup.fallback { minLength := 1, maxLength := 5 }

variable {m : Type → Type} [Monad m] {σ : Type}

def measure (now : m Float) (drafter : Drafter σ) (mode : Mode) (state : σ) (case : Case) :
    m (Metrics × σ) := do
  let started ← now
  let (tally, state) := simulate drafter case mode state
  let ended ← now
  pure (⟨ended - started, tally⟩, state)

def measureAll (now : m Float) (drafter : Drafter σ) (mode : Mode) (state : σ) :
    List Case → m (List Metrics)
  | [] => pure []
  | case :: cases => do
    let (metrics, state) ← measure now drafter mode state case
    let rest ← measureAll now drafter mode state cases
    pure (metrics :: rest)

def Report.addMode (report : Report) (mode : Mode) (cases : List Case)
    (metrics : List Metrics) : Report :=
  { report with
    cases := report.cases ++ List.zipWith (fun case metrics => ⟨case.id, mode, metrics⟩)
      cases metrics
    summary := report.summary ++ [⟨mode, .ofMetrics metrics⟩] }

def runModes (now : m Float) (settings : Settings) (cases : List Case) (report : Report) :
    List Mode → m (Except SettingsError Report)
  | [] => pure (.ok report)
  | mode :: modes =>
    match Proposer.new settings (some fallback) () with
    | .error error => pure (.error error)
    | .ok proposer => do
      let metrics ← measureAll now slotDrafter mode proposer cases
      let report := { report with backend := proposer.sessions.backend }
      runModes now settings cases (report.addMode mode cases metrics) modes

def run (now : m Float) (settings : Settings) (cases : List Case) (modes : List Mode) :
    m (Except SettingsError Report) :=
  runModes now settings cases
    { backend := settings.backend, speculativeTokens := settings.speculativeTokens } modes

end Redraft.Replay
