import Relay.Failure
import Relay.Run.Summary

/-!
# Expectations

What may be expected of the end of a run. An expectation that is not met answers with a complaint
that says what was expected and what was found.
-/

namespace Relay.Run

open Relay.Text

/-- **Expecting an error** with a given code. -/
def expectError {α : Type} (code : String) (shown : α → Shown) :
    Except RunError α → Except String Unit
  | .ok result => .error ("Expected error " ++ code ++ ", got success: " ++ (shown result).render)
  | .error error =>
    if error.code = code then .ok ()
    else .error ("Expected error " ++ code ++ ", got " ++ error.code ++ ": " ++ error.message)

/-- **Expecting starvation**, whatever the counts. -/
def expectStarvation {α : Type} (shown : α → Shown) (outcome : Except RunError α) :
    Except String Unit :=
  expectError (RunError.starvation 0 0).code shown outcome

/-- **Expecting a number of steps.** -/
def expectSteps (expected : Nat) (summary : RunSummary) : Except String Unit :=
  if summary.steps = expected then .ok ()
  else
    .error (s!"Expected {expected} steps, run '" ++ summary.pipeline ++ s!"' took {summary.steps}")

end Relay.Run
