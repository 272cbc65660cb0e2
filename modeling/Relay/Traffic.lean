import Relay.Message

/-!
# Traffic

The types that a pipeline is made for: what its requests and the items of its responses are, what
its stages may keep, what its processors note down for whoever watches the run, and what they
remember outside their stages.
-/

namespace Relay

/-- **The types of a pipeline.** -/
structure Traffic where
  Request : Type
  Response : Type
  /-- Codes of the types of values that a stage may keep. -/
  Kind : Type
  /-- The type behind a code. -/
  Value : Kind → Type
  /-- What processors note down in the course of a run. -/
  Note : Type := Empty
  /-- What processors remember outside their stages, from callback to callback. -/
  Memory : Type := Unit
  [decideKind : DecidableEq Kind]

attribute [instance] Traffic.decideKind

/-- **A message** handed to a processor. -/
inductive Message (T : Traffic) where
  | request (request : T.Request)
  | response (reply : Reply T.Response)

namespace Message

variable {T : Traffic}

/-- The kind of a message. -/
def kind : Message T → MessageKind
  | request _ => .request
  | response _ => .response

/-- Whether a message is the end of the pipe. -/
def isEop : Message T → Bool
  | request _ => false
  | response reply => reply.isEop

end Message

/-- **A message that a stage sends** to one of its neighbours: a request to the next stage or a
reply to the one before. -/
inductive Outgoing (T : Traffic) where
  | request (request : T.Request)
  | response (reply : Reply T.Response)

end Relay
