import Relay.Proofs.Run.Sound

/-!
# What a step can do

Every step of a sound run is one of eleven moves. Each is given with all that is known when it is
made, and with the run that it leads to, so that whoever follows a run looks at the moves and never
at the step itself.

* `Run.move_step` says that a step is a move.
-/

namespace Relay

variable {T : Traffic} {η : Type}

/-! ## (1) Runs that moves lead to -/

/-- **The call for a message**: the processor sees its stage without it. -/
def Stage.callFor (rest : Stage T) (index : Nat) (message : Message T) : Call T where
  stage := index
  message
  eop := rest.eop
  pendingRequests := rest.requests.length
  pendingResponses := rest.responses.length

namespace Run

/-- The run that takes no notice of a pause any longer. -/
def awake (run : Run T η) : Run T η := { run with isWaiting := false }

/-- **The run with a callback started** for a message that has left its queue. -/
def opened (run : Run T η) (slot : Slot) (processor : Processor T) (message : Message T)
    (rest : Stage T) : Run T η :=
  { run with
    current := none
    stages := run.stages.modify slot.stage fun _ => rest
    ready := if (rest.pending slot.kind).isEmpty then run.ready.clear slot else run.ready
    requestsProcessed := run.requestsProcessed + if slot.kind = .request then 1 else 0
    responsesProcessed := run.responsesProcessed + if slot.kind = .response then 1 else 0
    past := .called (rest.callFor slot.stage message) ::
      .logged (dispatchRecord slot.stage processor.name message) :: run.past
    flight := some ⟨slot, processor.name, processor.handle message⟩ }

/-- **The run with its callback ended**, whatever follows from it. -/
def settled (run : Run T η) (flight : Flight T) (result : Except Failure Unit) : Run T η :=
  { run.log (.returned flight.slot.stage result) with flight := none, steps := run.steps + 1 }

/-- The start of a callback for a message that is there. -/
theorem start_eq {job : Job T η} {run : Run T η} {slot : Slot} {stage rest : Stage T}
    {processor : Processor T} {message : Message T}
    (found : run.stages[slot.stage]? = some stage)
    (hasProcessor : job.pipeline.processor? slot.stage = some processor)
    (popped : stage.pop? slot.kind = some (message, rest)) :
    run.start job slot = run.opened slot processor message rest := by
  obtain ⟨index, kind⟩ := slot
  simp only [start, found, hasProcessor, popped]
  cases kind <;> rfl

section Settling

variable {job : Job T η} {run : Run T η} {flight : Flight T} {stage : Stage T}

/-- A callback that has tried to send past the last stage fails the run, however it has ended. -/
theorem settle_of_violation {result : Except Failure Unit}
    (found : run.stages[flight.slot.stage]? = some stage) (violation : stage.violation = true) :
    run.settle job flight result =
      ((run.settled flight result).modifyStage flight.slot.stage (·.clearViolation)).fail job
        (.boundary flight.slot.stage flight.processor) := by
  simp only [settle, log, found, Option.map_some, Option.getD_some, violation, if_true]
  rfl

/-- A callback that has failed fails the run. -/
theorem settle_of_error {failure : Failure}
    (found : run.stages[flight.slot.stage]? = some stage) (violation : stage.violation = false) :
    run.settle job flight (.error failure) =
      (run.settled flight (.error failure)).fail job
        (.processor flight.slot.stage flight.processor flight.slot.kind failure) := by
  simp only [settle, log, found, Option.map_some, Option.getD_some, violation,
    Bool.false_eq_true, if_false]
  rfl

/-- What a callback has sent is routed if it has ended well. -/
theorem settle_of_ok (found : run.stages[flight.slot.stage]? = some stage)
    (violation : stage.violation = false) :
    run.settle job flight (.ok ()) =
      (run.settled flight (.ok ())).route job flight.slot.stage := by
  simp only [settle, log, found, Option.map_some, Option.getD_some, violation,
    Bool.false_eq_true, if_false]
  rfl

end Settling

/-! ## (2) Moves -/

/-- **A poll of the callback in flight**: its stage, and how the poll leaves callback and scene. -/
structure Polled (run : Run T η) (flight : Flight T) (stage : Stage T)
    (status : Callback.Status T Unit) (scene : Callback.Scene T) : Prop where
  state : run.state = .delivering
  outcome : run.outcome = none
  isFlight : run.flight = some flight
  current : run.current = none
  found : run.stages[flight.slot.stage]? = some stage
  polled : flight.callback.poll ⟨stage, run.memory, run.past⟩ = (status, scene)

/-- **The moves of a run.** -/
inductive Move (job : Job T η) (run : Run T η) : Run T η → Prop where
  /-- The run is announced. -/
  | announce (state : run.state = .seeded) : Move job run ((run.announce job).become .running)
  /-- The end of the pipe has reached the caller. -/
  | succeed (state : run.state = .running) (eop : run.eopReached = true) :
      Move job run (run.succeed job)
  /-- Nothing is there to be handled. -/
  | starve (state : run.state = .running) (eop : run.eopReached = false)
      (next : run.ready.next? = none) :
      Move job run (run.fail job (.starvation run.steps run.stages.length))
  /-- A message is there, but the limit is reached. -/
  | exceed (slot : Slot) (limit : Nat) (state : run.state = .running)
      (eop : run.eopReached = false) (next : run.ready.next? = some slot)
      (reached : run.limitReached job = some limit) :
      Move job run (run.fail job (.stepLimit limit))
  /-- A message is chosen. -/
  | choose (slot : Slot) (state : run.state = .running) (eop : run.eopReached = false)
      (next : run.ready.next? = some slot) (free : run.limitReached job = none) :
      Move job run ({ run with current := some slot }.become .delivering)
  /-- A callback is started for the chosen message. -/
  | start (slot : Slot) (stage : Stage T) (processor : Processor T) (message : Message T)
      (rest : Stage T) (state : run.state = .delivering) (outcome : run.outcome = none)
      (flight : run.flight = none) (current : run.current = some slot)
      (found : run.stages[slot.stage]? = some stage)
      (hasProcessor : job.pipeline.processor? slot.stage = some processor)
      (popped : stage.pop? slot.kind = some (message, rest)) :
      Move job run (run.opened slot processor message rest)
  /-- The handler refuses an item that the callback in flight has sent. -/
  | refuse (flight : Flight T) (stage : Stage T) (status : Callback.Status T Unit)
      (scene : Callback.Scene T) (failure : Failure) (polled : run.Polled flight stage status scene)
      (refused : (job.handler.offer run.received scene.stage.callerQueue).2.2 = some failure) :
      Move job run ((run.afterPoll job flight.slot.stage scene).fail job (.handler failure))
  /-- The callback in flight pauses. -/
  | wait (flight : Flight T) (stage : Stage T) (scene : Callback.Scene T) (rest : Callback T Unit)
      (polled : run.Polled flight stage (.waiting rest) scene)
      (accepted : (job.handler.offer run.received scene.stage.callerQueue).2.2 = none) :
      Move job run { run.afterPoll job flight.slot.stage scene with
        flight := some { flight with callback := rest }
        isWaiting := true }
  /-- The callback in flight ends, and has tried to send past the last stage. -/
  | overreach (flight : Flight T) (stage : Stage T) (scene : Callback.Scene T)
      (result : Except Failure Unit) (polled : run.Polled flight stage (.finished result) scene)
      (accepted : (job.handler.offer run.received scene.stage.callerQueue).2.2 = none)
      (violation : scene.stage.violation = true) :
      Move job run ((((run.afterPoll job flight.slot.stage scene).settled flight
        result).modifyStage flight.slot.stage (·.clearViolation)).fail job
          (.boundary flight.slot.stage flight.processor))
  /-- The callback in flight fails. -/
  | fail (flight : Flight T) (stage : Stage T) (scene : Callback.Scene T) (failure : Failure)
      (polled : run.Polled flight stage (.finished (.error failure)) scene)
      (accepted : (job.handler.offer run.received scene.stage.callerQueue).2.2 = none)
      (violation : scene.stage.violation = false) :
      Move job run (((run.afterPoll job flight.slot.stage scene).settled flight
        (.error failure)).fail job
          (.processor flight.slot.stage flight.processor flight.slot.kind failure))
  /-- The callback in flight ends well, and what it has sent is routed. -/
  | finish (flight : Flight T) (stage : Stage T) (scene : Callback.Scene T)
      (polled : run.Polled flight stage (.finished (.ok ())) scene)
      (accepted : (job.handler.offer run.received scene.stage.callerQueue).2.2 = none)
      (violation : scene.stage.violation = false) :
      Move job run (((run.afterPoll job flight.slot.stage scene).settled flight
        (.ok ())).route job flight.slot.stage)
  /-- The run has come to its end and stays as it is. -/
  | stop (isTerminal : run.state.isTerminal = true) : Move job run run

/-! ## (3) Steps are moves -/

section Steps

variable {job : Job T η} {run : Run T η}

/-- A step takes no notice of an earlier pause. -/
theorem step_eq :
    run.step job =
      match run.state with
      | .seeded => (run.awake.announce job).become .running
      | .running => run.awake.choose job run.ready.next?
      | .delivering =>
        match run.flight with
        | some flight => run.awake.pollFlight job flight
        | none =>
          match run.current with
          | some slot => run.awake.start job slot
          | none => run.awake.become .running
      | .terminated | .failed => run.awake := rfl

/-- A seeded run is announced. -/
theorem step_of_seeded (state : run.state = .seeded) :
    run.step job = (run.awake.announce job).become .running := by
  rw [step_eq, state]

/-- A running run chooses a message. -/
theorem step_of_running (state : run.state = .running) :
    run.step job = run.awake.choose job run.ready.next? := by
  rw [step_eq, state]

/-- A run with a chosen message starts its callback. -/
theorem step_of_chosen {slot : Slot} (state : run.state = .delivering)
    (flight : run.flight = none) (current : run.current = some slot) :
    run.step job = run.awake.start job slot := by
  rw [step_eq, state, flight, current]

/-- A run with a callback in flight polls it. -/
theorem step_of_inFlight {flight : Flight T} (state : run.state = .delivering)
    (isFlight : run.flight = some flight) :
    run.step job = run.awake.pollFlight job flight := by
  rw [step_eq, state, isFlight]

/-- A run that has come to its end stays as it is. -/
theorem step_of_isTerminal (isTerminal : run.state.isTerminal = true) :
    run.step job = run.awake := by
  rw [step_eq]
  cases state : run.state <;> simp_all [RunState.isTerminal]

/-- A run whose end of the pipe is out succeeds, whatever still waits. -/
theorem choose_of_eop (eop : run.eopReached = true) (next : Option Slot) :
    run.choose job next = run.succeed job := by
  simp only [choose, eop, if_true]

/-- A run in which nothing waits starves. -/
theorem choose_none (eop : run.eopReached = false) :
    run.choose job none = run.fail job (.starvation run.steps run.stages.length) := by
  simp only [choose, eop, Bool.false_eq_true, if_false]

/-- A run that may take another step sets out to deliver the message that it has found. -/
theorem choose_some (eop : run.eopReached = false) (free : run.limitReached job = none)
    (slot : Slot) :
    run.choose job (some slot) = { run with current := some slot }.become .delivering := by
  simp only [choose, eop, free, Bool.false_eq_true, if_false]

/-- A run that has come to its limit fails if a message waits. -/
theorem choose_of_limitReached {limit : Nat} (eop : run.eopReached = false)
    (reached : run.limitReached job = some limit) (slot : Slot) :
    run.choose job (some slot) = run.fail job (.stepLimit limit) := by
  simp only [choose, eop, reached, Bool.false_eq_true, if_false]

end Steps

/-- **The choice of a message is a move.** -/
theorem move_choose (job : Job T η) (run : Run T η) (state : run.state = .running) :
    Move job run (run.choose job run.ready.next?) := by
  cases eop : run.eopReached with
  | true =>
    rw [choose_of_eop eop]
    exact .succeed state eop
  | false =>
    cases next : run.ready.next? with
    | none =>
      rw [choose_none eop]
      exact .starve state eop next
    | some slot =>
      cases reached : run.limitReached job with
      | none =>
        rw [choose_some eop reached]
        exact .choose slot state eop next reached
      | some limit =>
        rw [choose_of_limitReached eop reached]
        exact .exceed slot limit state eop next reached

/-- **The poll of a callback is a move.** -/
theorem move_pollFlight (job : Job T η) {run : Run T η} {flight : Flight T} {stage : Stage T}
    {status : Callback.Status T Unit} {scene : Callback.Scene T}
    (polled : run.Polled flight stage status scene) :
    Move job run (run.pollFlight job flight) := by
  have replaced : (run.afterPoll job flight.slot.stage scene).stages[flight.slot.stage]? =
      some scene.stage.clearCaller :=
    List.getElem?_set_self (List.getElem?_eq_some_iff.mp polled.found).1
  cases verdict : (job.handler.offer run.received scene.stage.callerQueue).2.2 with
  | some failure =>
    rw [pollFlight_of_refused polled.found polled.polled verdict]
    exact .refuse flight stage status scene failure polled verdict
  | none =>
    cases status with
    | waiting rest =>
      rw [pollFlight_of_waiting polled.found polled.polled verdict]
      exact .wait flight stage scene rest polled verdict
    | finished result =>
      rw [pollFlight_of_finished polled.found polled.polled verdict]
      cases violation : scene.stage.violation with
      | true =>
        rw [settle_of_violation replaced violation]
        exact .overreach flight stage scene result polled verdict violation
      | false =>
        cases result with
        | error failure =>
          rw [settle_of_error replaced violation]
          exact .fail flight stage scene failure polled verdict violation
        | ok =>
          rw [settle_of_ok replaced violation]
          exact .finish flight stage scene polled verdict violation

/-- **Every step of a sound run is a move.** -/
theorem move_step {job : Job T η} {run : Run T η} (sound : Sound job run) :
    Move job run.awake (run.step job) := by
  cases sound.phase with
  | atRest state outcome flight current =>
    rcases state with seeded | running
    · rw [step_of_seeded seeded]
      exact .announce seeded
    · rw [step_of_running running]
      exact move_choose job run.awake running
  | chosen slot state outcome flight current ready =>
    -- A marked queue is not empty, so that there is a message to start with.
    obtain ⟨stage, processor, message, rest, found, hasProcessor, popped⟩ :=
      sound.exists_popped ready
    have started : run.awake.start job slot = run.awake.opened slot processor message rest :=
      start_eq found hasProcessor popped
    rw [step_of_chosen state flight current, started]
    exact .start slot stage processor message rest state outcome flight current found
      hasProcessor popped
  | inFlight flight state outcome isFlight current =>
    obtain ⟨stage, turn, earlier, engaged⟩ := sound.engaged flight isFlight
    rcases polled : flight.callback.poll ⟨stage, run.memory, run.past⟩ with ⟨status, scene⟩
    rw [step_of_inFlight state isFlight]
    exact move_pollFlight job ⟨state, outcome, isFlight, current, engaged.found, polled⟩
  | succeeded summary state outcome flight =>
    have isTerminal : run.state.isTerminal = true := by rw [state]; rfl
    rw [step_of_isTerminal isTerminal]
    exact .stop isTerminal
  | failed error state outcome flight =>
    have isTerminal : run.state.isTerminal = true := by rw [state]; rfl
    rw [step_of_isTerminal isTerminal]
    exact .stop isTerminal

end Run

end Relay
