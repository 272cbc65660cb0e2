import Relay.Event
import Relay.Failure
import Relay.Log.Level
import Relay.Run.State
import Relay.Run.Summary

/-!
# Log records

What a run writes into the log, by cause. Level, wording and fields of a record follow from its
cause.
-/

namespace Relay.Log

/-- **A log record.** -/
inductive Record where
  /-- The span of a run is opened. -/
  | runOpened (runId : RunId) (pipeline : String) (stages : Nat)
  /-- The run changes its state. -/
  | transition (before after : RunState)
  /-- A request is handed to a processor. -/
  | dispatchedRequest (stage : Nat) (processor : String)
  /-- A response is handed to a processor. -/
  | dispatchedResponse (stage : Nat) (processor : String) (eop : Bool)
  /-- A stage sends a response after its end of the pipe. -/
  | lateResponse (stage : Nat) (processor : String) (eop : Bool)
  /-- The end of the pipe reaches the caller. -/
  | eopReached (steps : Nat)
  /-- The run has succeeded. -/
  | completed (runId : RunId) (pipeline : String) (steps delivered : Nat) (durationMs : Float)
  /-- The run has failed. -/
  | failed (runId : RunId) (pipeline : String) (steps : Nat) (error : RunError)
  /-- An event is written into the log. -/
  | event (level : Level) (event : Event)

namespace Record

/-- **The level of a record.** -/
def level : Record → Level
  | runOpened _ _ _ | completed _ _ _ _ _ => .info
  | transition _ _ => .trace
  | dispatchedRequest _ _ | dispatchedResponse _ _ _ | eopReached _ => .debug
  | lateResponse _ _ _ | failed _ _ _ _ => .warn
  | event level _ => level

/-- Whether a record opens a span instead of reporting a moment. -/
def isSpan : Record → Bool
  | runOpened _ _ _ => true
  | _ => false

/-- **The wording of a record.** -/
def message : Record → String
  | runOpened _ _ _ => "pipeline.run"
  | transition _ _ => "Run state transition"
  | dispatchedRequest _ _ => "Dispatching request"
  | dispatchedResponse _ _ _ => "Dispatching response"
  | lateResponse _ _ _ => "Response sent after end-of-pipe"
  | eopReached _ => "End of pipe reached the caller"
  | completed _ _ _ _ _ => "Pipeline run completed"
  | failed _ _ _ _ => "Pipeline run failed"
  | event _ emitted => "Event: " ++ emitted.type

/-- **The fields of a record**, beside its wording. -/
def fields : Record → List (String × Json)
  | runOpened runId pipeline stages =>
    [("run_id", .text runId.text), ("pipeline", .text pipeline), ("stages", .nat stages)]
  | transition before after => [("from", .text before.name), ("to", .text after.name)]
  | dispatchedRequest stage processor =>
    [("stage", .nat stage), ("kind", MessageKind.request.write), ("processor", .text processor)]
  | dispatchedResponse stage processor eop =>
    [("stage", .nat stage), ("kind", MessageKind.response.write), ("processor", .text processor),
      ("eop", .bool eop)]
  | lateResponse stage processor eop =>
    [("stage", .nat stage), ("processor", .text processor), ("eop", .bool eop)]
  | eopReached steps => [("steps", .nat steps)]
  | completed runId pipeline steps delivered durationMs =>
    [("run_id", .text runId.text), ("pipeline", .text pipeline), ("steps", .nat steps),
      ("responses", .nat delivered), ("duration_ms", .number (.real durationMs))]
  | failed runId pipeline steps error =>
    [("run_id", .text runId.text), ("pipeline", .text pipeline), ("steps", .nat steps),
      ("code", .text error.code), ("error", .text error.message)]
  | event _ emitted =>
    [("event_type", .text emitted.type), ("event_data", .text emitted.shownData.render)]

end Record

/-- **A log cut off at a level.** -/
def atLevel (threshold : Level) (records : List Record) : List Record :=
  records.filter fun record => record.level.isEnabled threshold

/-- A log cut off at a level holds exactly the records at that level or above. -/
theorem mem_atLevel {threshold : Level} {records : List Record} {record : Record} :
    record ∈ atLevel threshold records ↔
      record ∈ records ∧ record.level.isEnabled threshold = true := List.mem_filter

end Relay.Log
