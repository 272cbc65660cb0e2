import Relay.Json.Value

/-!
# Events

What a run tells the outside about its start and its end, and a log that keeps events in order.
-/

namespace Relay

/-- **An event**: its type, and its payload if it has one. -/
structure Event where
  type : String
  data : Option Json := none

namespace Event

/-- The type of the event at the start of a run. -/
def startedType : String := "pipeline.started"

/-- The type of the event at the end of a run that succeeded. -/
def completedType : String := "pipeline.completed"

/-- The type of the event at the end of a run that failed. -/
def failedType : String := "pipeline.failed"

/-- The display of the payload. -/
def shownData (event : Event) : Text.Shown := .option Json.shown event.data

end Event

/-- **A log of events**, in the order in which they were emitted. -/
structure EventLog where
  events : List Event := []

namespace EventLog

/-- The log with one more event. -/
def emit (log : EventLog) (event : Event) : EventLog := ⟨log.events ++ [event]⟩

/-- The number of events. -/
def size (log : EventLog) : Nat := log.events.length

/-- Whether there are no events. -/
def isEmpty (log : EventLog) : Bool := log.events.isEmpty

/-- The types of the events. -/
def types (log : EventLog) : List String := log.events.map (·.type)

/-- **The events of a family**: those whose type starts with the given text. -/
def ofType (log : EventLog) (family : String) : List Event :=
  log.events.filter fun event => family.toList.isPrefixOf event.type.toList

end EventLog

end Relay
