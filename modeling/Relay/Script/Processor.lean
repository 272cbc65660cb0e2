import Relay.Handler
import Relay.Pipeline.Builder
import Relay.Processor.Stock
import Relay.Script.Action

/-!
# Scripted pipelines

Processors, handlers and pipelines written down as data, for trying out how runs behave.
-/

namespace Relay.Script

/-! ## (1) Processors -/

/-- **What a scripted processor does.** -/
inductive Behaviour where
  | passThrough
  | terminal (responses : List String)
  | silent
  | failing (on : MessageKind) (message : String)
  | overreaching
  /-- Follows scripts, which pause only if `pauses` says so. Without a script for replies it
  forwards them. -/
  | scripted (pauses : Bool) (onRequest : List Action) (onResponse : Option (List Action))

/-- A callback with or without its pauses. -/
def pausing (pauses : Bool) (callback : Callback traffic Unit) : Callback traffic Unit :=
  if pauses then callback else callback.unpaused

/-- **The processor of a behaviour.** -/
def Behaviour.processor (name : String) : Behaviour → Processor traffic
  | .passThrough => .passThrough name
  | .terminal responses => .terminal .quoted name responses
  | .silent => .silent name
  | .failing on message => .failing name on message
  | .overreaching => .overreaching name
  | .scripted pauses onRequest onResponse =>
    .ofCallbacks name (fun text => pausing pauses (callback onRequest (.request text)))
      (onResponse.map fun actions reply => pausing pauses (callback actions (.response reply)))

/-- **A scripted processor**, which may record its calls. -/
structure ProcessorScript where
  name : String
  behaviour : Behaviour
  isRecorded : Bool := false

/-- The processor of a script. -/
def ProcessorScript.processor (script : ProcessorScript) : Processor traffic :=
  let processor := script.behaviour.processor script.name
  if script.isRecorded then processor.recording .recorded else processor

/-! ## (2) Handlers -/

/-- **A scripted response handler.** -/
inductive HandlerScript where
  | collecting
  | failingAfter (accepted : Nat) (message : String)
  | refusing (item : String) (message : String)

/-- The handler of a script. -/
def HandlerScript.handler : HandlerScript → Handler String (List String)
  | .collecting => .collecting
  | .failingAfter accepted message => .failingAfter accepted message
  | .refusing item message => .refusing item message

/-! ## (3) Samples -/

/-- **The metadata of a small map** with two layers and a service. -/
def sampleMetadata : Metadata where
  map := { id := "map-test", label := "Test map", srs := some "EPSG:4326" }
  layers := [{ id := "roads", label := "Roads", orderKey := 1 },
    { id := "rivers", label := "Rivers", orderKey := 2 }]
  service := some { id := "wms-test", serviceType := "WMS", pathSpec := "http://localhost/wms" }

/-- **A chain of a given length**: processors that forward everything before one that answers. -/
def chain (size : Nat) (responses : List String) : Builder traffic where
  name := s!"chain-{size}"
  processors :=
    (List.range (size - 1)).map (fun index => .passThrough s!"pass-{index}") ++
      [.terminal .quoted "terminal" responses]
  metadata := sampleMetadata

/-- The complaint about a chain of no length. -/
def emptyChainMessage : String := "a forwarding chain needs at least one stage"

end Relay.Script
