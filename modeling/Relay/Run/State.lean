import Relay.Json.Variant

/-!
# States of a run

A run is seeded, then alternates between running, where it chooses the next message, and delivering,
where a processor handles it, until it is terminated or failed.
-/

namespace Relay

open Relay.Json

/-- **The state of a run.** -/
inductive RunState where
  | seeded
  | running
  | delivering
  | terminated
  | failed
  deriving DecidableEq, Inhabited

namespace RunState

/-- The name of a state. -/
def name : RunState → String
  | seeded => "seeded"
  | running => "running"
  | delivering => "delivering"
  | terminated => "terminated"
  | failed => "failed"

/-- The name of a state in displays. -/
def label : RunState → String
  | seeded => "Seeded"
  | running => "Running"
  | delivering => "Delivering"
  | terminated => "Terminated"
  | failed => "Failed"

/-- All states, in the order in which a run may meet them first. -/
def all : List RunState := [seeded, running, delivering, terminated, failed]

/-- **Terminal states** are never left. -/
def isTerminal : RunState → Bool
  | terminated | failed => true
  | seeded | running | delivering => false

/-- **The legal transitions.** -/
def canBecome : RunState → RunState → Bool
  | seeded, next => next = running
  | running, next => next = delivering ∨ next = terminated ∨ next = failed
  | delivering, next => next = running ∨ next = terminated ∨ next = failed
  | terminated, _ => false
  | failed, _ => false

/-- Exactly the terminal states allow no transition. -/
theorem isTerminal_iff {s : RunState} : s.isTerminal = true ↔ ∀ t, s.canBecome t = false := by
  constructor
  · intro terminal t
    cases s <;> simp_all [isTerminal, canBecome]
  · intro stuck
    have notRunning := stuck running
    have notFailed := stuck failed
    cases s <;> simp_all [isTerminal, canBecome]

/-- Reading a state. -/
def read : Reader RunState := Form.read (all.map fun state => .plain state.name state)

/-- A path through the states: each proposed state is taken if the transition is legal, and passed
by otherwise. The steps tell the state left, the state proposed and whether it was taken. -/
def walk (state : RunState) : List RunState → List (RunState × RunState × Bool) × RunState
  | [] => ([], state)
  | next :: rest =>
    let legal := state.canBecome next
    let (steps, last) := walk (if legal then next else state) rest
    ((state, next, legal) :: steps, last)

end RunState

end Relay
