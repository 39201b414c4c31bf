import Redraft.Json.Printer
import Redraft.Replay.Report

namespace Redraft.Replay

open Json

def Tally.fields (tally : Tally) : List (String × Value) := [
  ("propose_count", .nat tally.proposals),
  ("total_accepted_tokens", .nat tally.accepted),
  ("total_output_tokens", .nat tally.output),
  ("acceptance_rate", .ofFloat tally.acceptanceRate)]

def CaseReport.toJson (report : CaseReport) : Value :=
  .record ([
    ("id", .text report.id),
    ("mode", .text report.mode.name),
    ("execution_time_ms", .ofFloat report.metrics.elapsedMs)] ++ report.metrics.tally.fields)

def ModeSummary.toJson (summary : ModeSummary) : Value :=
  .record ([
    ("mode", .text summary.mode.name),
    ("cases", .nat summary.summary.cases),
    ("failed_cases", .nat summary.summary.failedCases),
    ("execution_time_ms", .ofFloat summary.summary.elapsedMs)] ++ summary.summary.tally.fields)

def summaryToJson (summary : List ModeSummary) : Value := .array (summary.map ModeSummary.toJson)

def Report.toJson (report : Report) : Value :=
  .record [
    ("backend", .text report.backend.name),
    ("num_speculative_tokens", .nat report.speculativeTokens),
    ("cases", .array (report.cases.map CaseReport.toJson)),
    ("summary", summaryToJson report.summary)]

end Redraft.Replay
