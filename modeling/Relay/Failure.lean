import Relay.Message

/-!
# Failures

Why a callback, a handler, a definition or a run fails. A failure reported from outside is a chain
of texts, from the outermost explanation to the root; the other causes are cases of their own, each
with the wording under which it is shown.
-/

namespace Relay

open Relay.Text

/-! ## (1) Failures from outside -/

/-- **A failure** of a processor or a handler: the text it is shown under, and the texts of the
failures behind it, down to the root. -/
structure Failure where
  message : String
  causes : List String := []
  deriving DecidableEq, Inhabited

namespace Failure

/-- The failure inside a further explanation. -/
def within (failure : Failure) (explanation : String) : Failure :=
  ⟨explanation, failure.message :: failure.causes⟩

/-- All texts of a failure, from the outermost to the root. -/
def chain (failure : Failure) : List String := failure.message :: failure.causes

/-- The failure with the given texts, from the root to the outermost; without texts it has an empty
one. -/
def ofTexts : List String → Failure
  | [] => ⟨"", []⟩
  | root :: explanations => explanations.foldl within ⟨root, []⟩

end Failure

/-! ## (2) Sending past the end -/

/-- **Why a request cannot be sent**: the stage is the last one. -/
inductive SendError where
  | noDownstream (stage : Nat)
  deriving DecidableEq

/-- The wording of a send error. -/
def SendError.message : SendError → String
  | noDownstream stage => s!"Stage {stage} is the last stage and cannot send requests downstream"

/-- The display of a send error. -/
def SendError.shown : SendError → Shown
  | noDownstream stage => .fields "NoDownstream" [("stage", .nat stage)] false

/-- A send error as the failure of a callback. -/
def SendError.toFailure (error : SendError) : Failure := ⟨error.message, []⟩

/-! ## (3) Invalid definitions -/

/-- **Why a definition is refused**, with a hint at how to mend it if there is one. -/
structure InvalidDefinition where
  message : String
  fixHint : Option String := none
  deriving DecidableEq, Inhabited

/-! ## (4) Failed runs -/

/-- **Why a run fails.** -/
inductive RunError where
  /-- The definition of the pipeline is invalid. -/
  | invalid (definition : InvalidDefinition)
  /-- No stage has a message, and the end of the pipe has not reached the caller. -/
  | starvation (steps stageCount : Nat)
  /-- A processor failed on a message. -/
  | processor (stage : Nat) (processor : String) (kind : MessageKind) (source : Failure)
  /-- The caller's response handler failed. -/
  | handler (source : Failure)
  /-- The last stage tried to send a request. -/
  | boundary (stage : Nat) (processor : String)
  /-- The run would exceed its step limit. -/
  | stepLimit (limit : Nat)
  deriving DecidableEq

namespace RunError

/-- **The code of the kind of error.** -/
def code : RunError → String
  | invalid _ => "PIPE-000-VALIDATION"
  | starvation _ _ => "PIPE-001-STARVATION"
  | processor _ _ _ _ => "PIPE-002-PROCESSOR"
  | handler _ => "PIPE-003-HANDLER"
  | boundary _ _ => "PIPE-004-BOUNDARY"
  | stepLimit _ => "PIPE-005-STEP_LIMIT"

/-- **The wording of an error.** -/
def message : RunError → String
  | invalid definition => definition.message
  | starvation steps stageCount =>
    s!"No stage with pending requests/responses found after {steps} steps ({stageCount} stages)"
  | processor stage name kind source =>
    "Processor '" ++ name ++ s!"' at stage {stage} failed handling " ++ kind.name ++ ": " ++
      source.message
  | handler source => "Response handler failed: " ++ source.message
  | boundary stage name =>
    "Processor '" ++ name ++
      s!"' at terminal stage {stage} attempted to send a request downstream"
  | stepLimit limit => s!"Pipeline run exceeded the step limit of {limit}"

/-- **The stage an error is attributed to**, if it is attributed to one. -/
def stage? : RunError → Option Nat
  | processor stage _ _ _ | boundary stage _ => some stage
  | invalid _ | starvation _ _ | handler _ | stepLimit _ => none

/-- The texts of the failures behind an error, from the nearest to the root. -/
def chain : RunError → List String
  | invalid definition => [definition.message]
  | processor _ _ _ source | handler source => source.chain
  | starvation _ _ | boundary _ _ | stepLimit _ => []

/-- The parts of an error that its report names, beside code and message. -/
def details : RunError → List (String × Json)
  | starvation steps stageCount => [("steps", .nat steps), ("stage_count", .nat stageCount)]
  | processor stage name kind _ =>
    [("stage", .nat stage), ("processor", .text name), ("kind", kind.write)]
  | boundary stage name => [("stage", .nat stage), ("processor", .text name)]
  | stepLimit limit => [("limit", .nat limit)]
  | invalid _ | handler _ => []

/-- **The report of an error.** -/
def report (error : RunError) : Json :=
  .object (("code", .text error.code) :: ("message", .text error.message) :: error.details)

end RunError

end Relay
