import Relay.Processor

/-!
# Stock processors

Processors with a fixed behaviour, for trying out pipelines: one that answers, one that says
nothing, two that fail, and one that sends where it must not.
-/

namespace Relay.Processor

open Relay.Text

variable {T : Traffic}

/-- **The processor that answers** each request with the same items and the end of the pipe. -/
def terminal (shownItem : T.Response → Shown) (name : String) (responses : List T.Response) :
    Processor T where
  name
  onRequest _ := Callback.sendItems responses Callback.sendEop
  shown := .fields "TerminalProcessor" [("name", .quoted name),
    ("responses", .list (responses.map shownItem))] false

/-- **The processor that does nothing** with any message. -/
def silent (name : String) : Processor T where
  name
  onRequest _ := Callback.nothing
  onResponse _ := Callback.nothing
  shown := shownAs "SilentProcessor" name

/-- **The processor that fails** on messages of a kind. One that fails on responses forwards
requests, so that there will be a response to fail on; one that fails on requests fails on responses
too. -/
def failing (name : String) (failOn : MessageKind) (message : String) : Processor T where
  name
  onRequest request :=
    match failOn with
    | .request => .fail ⟨message, []⟩
    | .response => Callback.forwardRequest request
  onResponse _ := .fail ⟨message, []⟩
  shown := .fields "FailingProcessor" [("name", .quoted name), ("fail_on", .plain failOn.label),
    ("message", .quoted message)] false

/-- **The processor that overreaches**: it forwards each request, whether that is possible or not,
and at once sends the end of the pipe. -/
def overreaching (name : String) : Processor T where
  name
  onRequest request := .sendRequest request fun _ => Callback.sendEop
  shown := shownAs "OverreachingProcessor" name

end Relay.Processor
