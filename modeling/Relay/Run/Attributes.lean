import Relay.Json.Record

/-!
# Attributes of runs

What identifies a run to those who watch it: its pipeline, its identifier, the number of its stages,
its map and its service, each of them only if it is known.
-/

namespace Relay

open Relay.Json

/-- **The attributes of a run.** -/
structure RunAttributes where
  pipelineName : Option String := none
  runId : Option String := none
  stageCount : Option Nat := none
  mapId : Option String := none
  serviceId : Option String := none
  deriving DecidableEq, Inhabited

namespace RunAttributes

/-- The record of attributes. Absent ones are written as `null`. -/
def record : Record RunAttributes where
  types := [Option String, Option String, Option Nat, Option String, Option String]
  fields := .cons (.nullable "pipeline_name" readText .text) <|
    .cons (.nullable "run_id" readText .text) <|
    .cons (.nullable "stage_count" (readNat 64) .nat) <|
    .cons (.nullable "map_id" readText .text) <|
    .cons (.nullable "service_id" readText .text) .nil
  toRow a := (a.pipelineName, a.runId, a.stageCount, a.mapId, a.serviceId, ())
  ofRow row := ⟨row.1, row.2.1, row.2.2.1, row.2.2.2.1, row.2.2.2.2.1⟩

/-- **The payload of the event that reports the start of a run.** -/
def payload (a : RunAttributes) : Json := record.write a

/-- **The attributes under the names that telemetry gives them**, as texts; absent ones are left
out. -/
def telemetry (a : RunAttributes) : List (String × String) :=
  [("pipeline.name", a.pipelineName), ("pipeline.run_id", a.runId),
    ("pipeline.stage_count", a.stageCount.map toString), ("map.id", a.mapId),
    ("service.id", a.serviceId)].filterMap fun (name, value) => value.map fun text => (name, text)

open Relay.Text in
/-- The display of attributes. -/
def shown (a : RunAttributes) : Shown :=
  .fields "RunSpanAttributes" [("pipeline_name", .option .quoted a.pipelineName),
    ("run_id", .option .quoted a.runId), ("stage_count", .option .nat a.stageCount),
    ("map_id", .option .quoted a.mapId), ("service_id", .option .quoted a.serviceId)] false

end RunAttributes

end Relay
