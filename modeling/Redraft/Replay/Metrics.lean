import Redraft.Replay.Case

namespace Redraft.Replay

structure Metrics where
  elapsedMs : Float
  tally : Tally

/-- Accepted tokens per output token; zero without output. -/
def Tally.acceptanceRate (tally : Tally) : Float :=
  if tally.output = 0 then 0.0 else Float.ofNat tally.accepted / Float.ofNat tally.output

def Tally.add (a b : Tally) : Tally :=
  ⟨a.proposals + b.proposals, a.accepted + b.accepted, a.output + b.output⟩

/-- A case that never ran took no time and counted nothing. -/
def Metrics.isFailed (metrics : Metrics) : Bool :=
  metrics.elapsedMs == 0.0 && metrics.tally == {}

structure Summary where
  cases : Nat := 0
  failedCases : Nat := 0
  elapsedMs : Float := 0.0
  tally : Tally := {}

def Summary.add (summary : Summary) (metrics : Metrics) : Summary :=
  if metrics.isFailed then
    { summary with cases := summary.cases + 1, failedCases := summary.failedCases + 1 }
  else
    { summary with
      cases := summary.cases + 1
      elapsedMs := summary.elapsedMs + metrics.elapsedMs
      tally := summary.tally.add metrics.tally }

def Summary.ofMetrics (metrics : List Metrics) : Summary := metrics.foldl Summary.add {}

@[simp] theorem Summary.ofMetrics_nil : Summary.ofMetrics [] = {} := rfl

end Redraft.Replay
