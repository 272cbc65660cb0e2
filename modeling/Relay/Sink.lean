import Relay.Log.Record

/-!
# Event sinks

Where the events of a run go. A sink may write an event into the log; it has no other effect on a
run.
-/

namespace Relay

open Relay.Log

/-- **An event sink**: the log records it writes for an event. -/
structure EventSink where
  records : Event → List Record

namespace EventSink

/-- The sink that drops all events. -/
def discard : EventSink := ⟨fun _ => []⟩

/-- The level at which a logging sink set to `level` writes: its own, except that errors are written
as warnings. -/
def writtenAt (level : Level) : Level := if level = .error then .warn else level

/-- **The sink that writes events into the log**, by default as information. -/
def logging (level : Level := .info) : EventSink :=
  ⟨fun event => [.event (writtenAt level) event]⟩

end EventSink

end Relay
