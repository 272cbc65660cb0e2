import Relay.Log.Record
import Relay.Stage

/-!
# Journals

Everything that happens in the course of a run, in order: which callbacks are called with what in
view, what they send and note down and how they end, which items the caller's handler is offered,
and what goes to the log and to the event sink.
-/

namespace Relay

/-- **A call** of a processor: where, with which message, and what is in view at the start. -/
structure Call (T : Traffic) where
  stage : Nat
  message : Message T
  eop : Bool
  pendingRequests : Nat
  pendingResponses : Nat

/-- **Something that happens during a run.** -/
inductive Entry (T : Traffic) where
  /-- A callback starts. -/
  | called (call : Call T)
  /-- The callback of a stage sends a message. -/
  | sent (stage : Nat) (message : Outgoing T)
  /-- The callback of the last stage tries to send a request. -/
  | refused (stage : Nat)
  /-- The callback of a stage notes something down. -/
  | noted (stage : Nat) (note : T.Note)
  /-- The callback of a stage pauses. -/
  | paused (stage : Nat)
  /-- The callback of a stage ends. -/
  | returned (stage : Nat) (result : Except Failure Unit)
  /-- The caller's handler is offered an item. -/
  | offered (item : T.Response) (result : Except Failure Unit)
  /-- A record goes to the log. -/
  | logged (record : Log.Record)
  /-- An event goes to the event sink. -/
  | emitted (event : Event)

namespace Entry

variable {T : Traffic}

/-- The call that an entry reports. -/
def call? : Entry T → Option (Call T)
  | called call => some call
  | _ => none

/-- The note that an entry reports. -/
def note? : Entry T → Option T.Note
  | noted _ note => some note
  | _ => none

/-- The item that an entry reports as offered to the handler. -/
def offer? : Entry T → Option T.Response
  | offered item _ => some item
  | _ => none

/-- The item that an entry reports as accepted by the handler. -/
def accepted? : Entry T → Option T.Response
  | offered item (.ok ()) => some item
  | _ => none

/-- The log record that an entry reports. -/
def record? : Entry T → Option Log.Record
  | logged record => some record
  | _ => none

/-- The event that an entry reports. -/
def event? : Entry T → Option Event
  | emitted event => some event
  | _ => none

end Entry

namespace Journal

variable {T : Traffic}

/-- The calls of a journal, in order. -/
def calls (journal : List (Entry T)) : List (Call T) := journal.filterMap Entry.call?

/-- The notes of a journal, in order. -/
def notes (journal : List (Entry T)) : List T.Note := journal.filterMap Entry.note?

/-- The items offered to the handler, in order. -/
def offers (journal : List (Entry T)) : List T.Response := journal.filterMap Entry.offer?

/-- The items accepted by the handler, in order. -/
def accepted (journal : List (Entry T)) : List T.Response := journal.filterMap Entry.accepted?

/-- The log records of a journal, in order. -/
def records (journal : List (Entry T)) : List Log.Record := journal.filterMap Entry.record?

/-- The events of a journal, in order. -/
def events (journal : List (Entry T)) : List Event := journal.filterMap Entry.event?

end Journal

end Relay
