import Relay.Callback

/-!
# Processors

What runs at a stage: a callback for each request and for each reply that arrives there. The
processors here forward messages; they are what pipelines are made of beside those of the user.
-/

namespace Relay

open Relay.Text

variable {T : Traffic}

/-- **A processor.** Unless told otherwise it forwards replies unchanged. -/
structure Processor (T : Traffic) where
  name : String
  onRequest : T.Request → Callback T Unit
  onResponse : Reply T.Response → Callback T Unit := Callback.send
  /-- How the processor is displayed. -/
  shown : Shown := .plain name

namespace Processor

/-- **The callback for a message.** -/
def handle (processor : Processor T) : Message T → Callback T Unit
  | .request request => processor.onRequest request
  | .response reply => processor.onResponse reply

/-- The display of a processor without parts other than its name. -/
def shownAs (kind name : String) : Shown := .fields kind [("name", .quoted name)] false

/-- **The processor that forwards everything.** -/
def passThrough (name : String) : Processor T where
  name
  onRequest := Callback.forwardRequest
  shown := shownAs "PassThroughProcessor" name

/-- **A processor from its callbacks.** Without a callback for replies it forwards them. -/
def ofCallbacks (name : String) (onRequest : T.Request → Callback T Unit)
    (onResponse : Option (Reply T.Response → Callback T Unit) := none) : Processor T where
  name
  onRequest
  onResponse := onResponse.getD Callback.send
  shown := .fields "FnProcessor" [("name", .quoted name),
    ("custom_response", .bool onResponse.isSome)] false

/-! ## Recording -/

/-- **The record of a call** of a processor. -/
structure CallRecord where
  processor : String
  stage : Nat
  kind : MessageKind
  /-- Whether the message was the end of the pipe. -/
  eop : Bool
  runId : RunId
  deriving DecidableEq

/-- **A log of calls**, in order, which several processors may share. -/
structure CallLog where
  records : List CallRecord := []
  deriving DecidableEq

/-- The log with one more record. -/
def CallLog.push (log : CallLog) (record : CallRecord) : CallLog := ⟨log.records ++ [record]⟩

/-- **The trace of a log**: where each call was, and with which kind of message. -/
def CallLog.trace (log : CallLog) : List (Nat × MessageKind) :=
  log.records.map fun record => (record.stage, record.kind)

/-- The callback of a recording processor: the record first, then what the processor does. -/
def recorded (toNote : CallRecord → T.Note) (name : String) (message : Message T)
    (callback : Callback T Unit) : Callback T Unit :=
  .look fun view =>
    .note (toNote ⟨name, view.index, message.kind, message.isEop, view.runId⟩) callback

/-- **The processor that notes down each of its calls** and else does what the given one does. -/
def recording (toNote : CallRecord → T.Note) (processor : Processor T) : Processor T where
  name := processor.name
  onRequest request :=
    recorded toNote processor.name (.request request) (processor.onRequest request)
  onResponse reply :=
    recorded toNote processor.name (.response reply) (processor.onResponse reply)
  shown :=
    let records := .fields "Mutex" [("data", .list [])] false
    .fields "RecordingProcessor" [("inner", processor.shown),
      ("log", .fields "CallLog" [("records", records)] false)] false

/-- A recording processor handles a message by recording the call first. -/
theorem handle_recording (toNote : CallRecord → T.Note) (processor : Processor T)
    (message : Message T) :
    (recording toNote processor).handle message =
      recorded toNote processor.name message (processor.handle message) := by
  cases message <;> rfl

end Processor

end Relay
