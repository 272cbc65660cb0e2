import Relay.Failure
import Relay.Metadata
import Relay.RunId
import Relay.Stage.Data
import Relay.Traffic

/-!
# Stages

The state of one position of a pipeline during one run: what waits for it, what it keeps, and what
the callback under way has sent. A processor sees its stage through a view and changes it by sending
and keeping.
-/

namespace Relay

variable {T : Traffic}

/-! ## (1) Views -/

/-- **What a processor sees of its stage.** -/
structure StageView (T : Traffic) where
  index : Nat
  stageCount : Nat
  processor : String
  runId : RunId
  metadata : Metadata
  /-- Whether the stage has sent its end of the pipe. -/
  eop : Bool
  pendingRequests : Nat
  pendingResponses : Nat
  data : StageData T.Value

namespace StageView

/-- Whether the stage is the first one, whose responses go to the caller. -/
def isFirst (view : StageView T) : Bool := view.index == 0

/-- Whether the stage is the last one, which has nowhere to send requests. -/
def isLast (view : StageView T) : Bool := view.index + 1 == view.stageCount

/-- **Whether the place behind the stage can be counted** in words of 64 bits. Otherwise there is no
telling whether the stage is the last one, and nothing can be done with it. -/
def isCountable (view : StageView T) : Bool := decide (view.index + 1 < UInt64.size)

/-- The complaint about a stage behind which nothing can be counted. -/
def uncountableMessage : String := "attempt to add with overflow"

open Relay.Text in
/-- The display of a stage. -/
def shown (view : StageView T) : Shown :=
  .fields "StageContext" [("index", .nat view.index), ("stage_count", .nat view.stageCount),
    ("processor", .quoted view.processor), ("pending_requests", .nat view.pendingRequests),
    ("pending_responses", .nat view.pendingResponses), ("eop", .bool view.eop),
    ("data", view.data.shown)] false

end StageView

/-! ## (2) Stages -/

/-- **A stage of a run.** -/
structure Stage (T : Traffic) where
  index : Nat
  stageCount : Nat
  processor : String
  runId : RunId
  metadata : Metadata
  data : StageData T.Value := .empty
  /-- Requests that wait, first come first. -/
  requests : List T.Request := []
  /-- Responses that wait, first come first. -/
  responses : List (Reply T.Response) := []
  /-- What the callback under way has sent to the neighbours, in order. -/
  outbox : List (Outgoing T) := []
  /-- The items on their way to the caller, if the caller is attached here. -/
  caller : Option (List T.Response) := none
  /-- Whether the stage has sent its end of the pipe. -/
  eop : Bool := false
  /-- Whether the stage has tried to send a request past the end of the pipeline. -/
  violation : Bool := false

namespace Stage

/-- What a processor sees of the stage. -/
def view (stage : Stage T) : StageView T where
  index := stage.index
  stageCount := stage.stageCount
  processor := stage.processor
  runId := stage.runId
  metadata := stage.metadata
  eop := stage.eop
  pendingRequests := stage.requests.length
  pendingResponses := stage.responses.length
  data := stage.data

/-- Whether the stage is the last one. -/
def isLast (stage : Stage T) : Bool := stage.index + 1 == stage.stageCount

/-! ## (3) Sending -/

/-- **Sending a request** to the next stage. The last stage cannot, but its attempt is
remembered. -/
def sendRequest (stage : Stage T) (request : T.Request) : Except SendError Unit × Stage T :=
  if stage.isLast then (.error (.noDownstream stage.index), { stage with violation := true })
  else (.ok (), { stage with outbox := stage.outbox ++ [.request request] })

/-- **Sending a reply** to the stage before. Items of the first stage go to the caller, if it is
attached; all else goes to the outbox, and the end of the pipe is remembered. -/
def sendReply (stage : Stage T) (reply : Reply T.Response) : Stage T :=
  match reply, stage.caller with
  | .item payload, some queue =>
    if stage.index = 0 then { stage with caller := some (queue ++ [payload]) }
    else { stage with outbox := stage.outbox ++ [.response reply] }
  | .item _, none => { stage with outbox := stage.outbox ++ [.response reply] }
  | .eop, _ => { stage with outbox := stage.outbox ++ [.response reply], eop := true }

/-! ## (4) Queues -/

/-- The stage with one more request waiting. -/
def enqueueRequest (stage : Stage T) (request : T.Request) : Stage T :=
  { stage with requests := stage.requests ++ [request] }

/-- The stage with one more response waiting. -/
def enqueueResponse (stage : Stage T) (reply : Reply T.Response) : Stage T :=
  { stage with responses := stage.responses ++ [reply] }

/-- The messages of a kind that wait at the stage. -/
def pending (stage : Stage T) : MessageKind → List (Message T)
  | .request => stage.requests.map .request
  | .response => stage.responses.map .response

/-- **The first waiting message of a kind**, and the stage without it. -/
def pop? (stage : Stage T) : MessageKind → Option (Message T × Stage T)
  | .request =>
    match stage.requests with
    | [] => none
    | request :: rest => some (.request request, { stage with requests := rest })
  | .response =>
    match stage.responses with
    | [] => none
    | reply :: rest => some (.response reply, { stage with responses := rest })

/-- The stage with the caller attached. -/
def attachCaller (stage : Stage T) : Stage T := { stage with caller := some [] }

/-- The items on their way to the caller. -/
def callerQueue (stage : Stage T) : List T.Response := stage.caller.getD []

/-- The stage with the items for the caller taken away. -/
def clearCaller (stage : Stage T) : Stage T := { stage with caller := stage.caller.map fun _ => [] }

/-- The stage with an empty outbox. -/
def clearOutbox (stage : Stage T) : Stage T := { stage with outbox := [] }

/-- The stage with no violation remembered. -/
def clearViolation (stage : Stage T) : Stage T := { stage with violation := false }

/-- A message is taken from the front of its queue. -/
theorem pending_of_pop? {stage rest : Stage T} {kind : MessageKind} {message : Message T}
    (h : stage.pop? kind = some (message, rest)) :
    stage.pending kind = message :: rest.pending kind := by
  cases kind with
  | request =>
    cases queue : stage.requests <;> simp [pop?, queue] at h
    obtain ⟨rfl, rfl⟩ := h
    simp [pending, queue]
  | response =>
    cases queue : stage.responses <;> simp [pop?, queue] at h
    obtain ⟨rfl, rfl⟩ := h
    simp [pending, queue]

/-- A queue without messages is the only one from which nothing can be taken. -/
theorem pop?_eq_none_iff {stage : Stage T} {kind : MessageKind} :
    stage.pop? kind = none ↔ stage.pending kind = [] := by
  cases kind with
  | request => cases queue : stage.requests <;> simp [pop?, pending, queue]
  | response => cases queue : stage.responses <;> simp [pop?, pending, queue]

end Stage

end Relay
