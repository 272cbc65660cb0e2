import Relay.Json.Record
import Relay.RunId
import Relay.Time.Instant

/-!
# Summaries of runs

What is known of a run that succeeded: its counters and its timing.
-/

namespace Relay

open Relay.Json

/-- **The summary of a completed run.** Its counters are those of the run: natural numbers, which
agree with counts in words of 64 bits below `2 ^ 64`. -/
structure RunSummary where
  runId : RunId
  pipeline : String
  stageCount : Nat
  /-- Callbacks that have been run to their end. -/
  steps : Nat
  requestsProcessed : Nat
  responsesProcessed : Nat
  /-- Items that the response handler has accepted. -/
  responsesDelivered : Nat
  startedAt : Time.Instant
  durationMs : Float

namespace RunSummary

/-- Two summaries agree if all their parts do; durations are compared as doubles. -/
def agrees (a b : RunSummary) : Bool :=
  a.runId == b.runId && a.pipeline == b.pipeline && a.stageCount == b.stageCount &&
    a.steps == b.steps && a.requestsProcessed == b.requestsProcessed &&
    a.responsesProcessed == b.responsesProcessed &&
    a.responsesDelivered == b.responsesDelivered && a.startedAt == b.startedAt &&
    a.durationMs == b.durationMs

/-- **Whether the counters of a summary are balanced**: each step has treated one message. -/
def isBalanced (s : RunSummary) : Bool := s.requestsProcessed + s.responsesProcessed == s.steps

/-- A counter in a record: a natural number of at most 64 bits. -/
def counter (name : String) : Json.Field Nat := .required name (readNat 64) .nat

/-- The record of a summary. -/
def record : Record RunSummary where
  types := [RunId, String, Nat, Nat, Nat, Nat, Nat, Time.Instant, Float]
  fields := .cons (.required "run_id" RunId.read fun id => .text id.text) <|
    .cons (.text "pipeline") <|
    .cons (counter "stage_count") <| .cons (counter "steps") <|
    .cons (counter "requests_processed") <| .cons (counter "responses_processed") <|
    .cons (counter "responses_delivered") <|
    .cons (.required "started_at" Time.Instant.read fun instant => .text instant.text) <|
    .cons (.required "duration_ms" readFloat fun value => .number (.real value)) .nil
  toRow s := (s.runId, s.pipeline, s.stageCount, s.steps, s.requestsProcessed,
    s.responsesProcessed, s.responsesDelivered, s.startedAt, s.durationMs, ())
  ofRow row := ⟨row.1, row.2.1, row.2.2.1, row.2.2.2.1, row.2.2.2.2.1, row.2.2.2.2.2.1,
    row.2.2.2.2.2.2.1, row.2.2.2.2.2.2.2.1, row.2.2.2.2.2.2.2.2.1⟩

/-- **The payload of the event that reports a completed run**: all parts but the starting time. -/
def payload (s : RunSummary) : Json :=
  .object [("run_id", .text s.runId.text), ("pipeline", .text s.pipeline),
    ("stage_count", .nat s.stageCount), ("steps", .nat s.steps),
    ("requests_processed", .nat s.requestsProcessed),
    ("responses_processed", .nat s.responsesProcessed),
    ("responses_delivered", .nat s.responsesDelivered),
    ("duration_ms", .number (.real s.durationMs))]

end RunSummary

end Relay
