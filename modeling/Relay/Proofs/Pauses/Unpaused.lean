import Relay.Proofs.Run.Progress

/-!
# Jobs without pauses

Every job has a twin that differs from it only in that no callback pauses. As long as no callback is
in flight, both take the very same steps; a callback that is run to its end in one poll pauses
nowhere; and one that pauses has got, in its poll, to a place that the callback without pauses only
passes by.

* `Job.unpaused` is the twin.
* `Callback.poll_unpaused_of_finished` and `Callback.exists_pause` compare polls, and
  `Run.step_unpaused_of_idle` compares steps between callbacks.
-/

namespace Relay

variable {T : Traffic} {η : Type}

/-! ## (1) Callbacks -/

namespace Callback

variable {α : Type}

/-- **A callback that ends in a poll** has not paused in it. -/
theorem poll_unpaused_of_finished {callback : Callback T α} {scene later : Scene T}
    {result : Except Failure α} (finished : callback.poll scene = (.finished result, later)) :
    callback.unpaused.poll scene = (.finished result, later) := by
  -- Along the callback; at a pause the poll would have left it waiting.
  induction callback generalizing scene with
  | done _ => exact finished
  | fail _ => exact finished
  | pause _ => cases finished
  | look _ ih => exact ih _ finished
  | keep _ _ ih => exact ih finished
  | sendRequest _ _ ih => exact ih _ finished
  | sendReply _ _ ih => exact ih finished
  | note _ _ ih => exact ih finished
  | consult _ ih => exact ih _ finished
  | remember _ _ ih => exact ih finished

/-- **A callback that pauses in a poll** has come to a scene from which the rest goes on if there is
no pause. -/
theorem exists_pause {callback rest : Callback T α} {scene later : Scene T}
    (waiting : callback.poll scene = (.waiting rest, later)) :
    ∃ mid, later = mid.log (.paused mid.stage.index) ∧
      callback.unpaused.poll scene = rest.unpaused.poll mid := by
  -- Along the callback up to its first pause; the scene there is the one asked for.
  induction callback generalizing scene with
  | done _ => cases waiting
  | fail _ => cases waiting
  | pause next =>
    cases waiting
    exact ⟨scene, rfl, rfl⟩
  | look _ ih => exact ih _ waiting
  | keep _ _ ih => exact ih waiting
  | sendRequest _ _ ih => exact ih _ waiting
  | sendReply _ _ ih => exact ih waiting
  | note _ _ ih => exact ih waiting
  | consult _ ih => exact ih _ waiting
  | remember _ _ ih => exact ih waiting

end Callback

/-! ## (2) Jobs and runs -/

/-- **The processor without pauses.** -/
def Processor.unpaused (processor : Processor T) : Processor T :=
  { processor with
    onRequest := fun request => (processor.onRequest request).unpaused
    onResponse := fun reply => (processor.onResponse reply).unpaused }

/-- It handles a message without pausing. -/
theorem Processor.handle_unpaused (processor : Processor T) (message : Message T) :
    processor.unpaused.handle message = (processor.handle message).unpaused := by
  cases message <;> rfl

/-- **The pipeline without pauses.** -/
def Pipeline.unpaused (pipeline : Pipeline T) : Pipeline T :=
  { pipeline with
    processors := pipeline.processors.map Processor.unpaused
    processors_ne_nil := by simpa using pipeline.processors_ne_nil }

/-- It has as many stages. -/
@[simp] theorem Pipeline.size_unpaused (pipeline : Pipeline T) :
    pipeline.unpaused.size = pipeline.size := List.length_map _

/-- Each of its processors is the one without pauses. -/
theorem Pipeline.processor?_unpaused (pipeline : Pipeline T) (stage : Nat) :
    pipeline.unpaused.processor? stage = (pipeline.processor? stage).map Processor.unpaused :=
  List.getElem?_map

/-- **The job without pauses.** -/
def Job.unpaused (job : Job T η) : Job T η := { job with pipeline := job.pipeline.unpaused }

/-- **The callback in flight without pauses.** -/
def Flight.unpaused (flight : Flight T) : Flight T :=
  { flight with callback := flight.callback.unpaused }

namespace Run

/-- **The run with what is left of its callback without pauses.** -/
def unpaused (run : Run T η) : Run T η := { run with flight := run.flight.map Flight.unpaused }

variable {job : Job T η} {run : Run T η}

/-- While no callback is in flight, there is nothing to pause. -/
theorem unpaused_of_idle (idle : run.flight = none) : run.unpaused = run := by
  have none : run.flight.map Flight.unpaused = run.flight := by rw [idle]; rfl
  rw [unpaused, none]

/-- The stages are the same before a run. -/
theorem freshStages_unpaused (job : Job T η) : freshStages job.unpaused = freshStages job := by
  -- Of its processor a stage is only told the name.
  have size : job.unpaused.pipeline.size = job.pipeline.size := job.pipeline.size_unpaused
  refine List.ext_getElem? fun place => ?_
  rw [freshStages, freshStages, List.getElem?_mapIdx, List.getElem?_mapIdx, size,
    show job.unpaused.pipeline.processors = job.pipeline.processors.map Processor.unpaused from rfl,
    List.getElem?_map, Option.map_map]
  rfl

/-- So runs begin alike. -/
theorem seed_unpaused (job : Job T η) (received : η) (memory : T.Memory) :
    seed job.unpaused received memory = seed job received memory := by
  rw [seed, freshStages_unpaused]
  rfl

/-- **A sound run stays sound without pauses.** -/
theorem Sound.unpaused (sound : Sound job run) : Sound job.unpaused run.unpaused where
  blank := sound.blank.trans (freshStages_unpaused job).symm
  caller := sound.caller
  ready := sound.ready
  idle unfinished := by
    intro index stage found elsewhere
    refine sound.idle unfinished found fun flight isFlight => ?_
    exact elsewhere flight.unpaused (congrArg (Option.map Flight.unpaused) isFlight)
  phase := by
    have idle : run.flight = none → run.unpaused.flight = none := fun idle =>
      congrArg (Option.map Flight.unpaused) idle
    cases sound.phase with
    | atRest state outcome flight current => exact .atRest state outcome (idle flight) current
    | chosen slot state outcome flight current ready =>
      exact .chosen slot state outcome (idle flight) current ready
    | inFlight flight state outcome isFlight current =>
      exact .inFlight flight.unpaused state outcome
        (congrArg (Option.map Flight.unpaused) isFlight) current
    | succeeded summary state outcome flight =>
      exact .succeeded summary state outcome (idle flight)
    | failed error state outcome flight => exact .failed error state outcome (idle flight)
  engaged := by
    intro other isOther
    obtain ⟨flight, isFlight, rfl⟩ := Option.map_eq_some_iff.mp isOther
    obtain ⟨stage, turn, earlier, engaged⟩ := sound.engaged flight isFlight
    exact ⟨stage, turn, earlier, engaged.found, engaged.processor, engaged.turns, engaged.place,
      engaged.kind, engaged.result, engaged.outbox, engaged.violation,
      engaged.request?_of_isLast, engaged.isLast_of_isRefused⟩

/-! ## (3) Steps between callbacks -/

/-- The start of a run is reported alike. -/
theorem announce_unpaused (job : Job T η) (run : Run T η) :
    run.announce job.unpaused = run.announce job := by
  have size : job.unpaused.pipeline.size = job.pipeline.size := job.pipeline.size_unpaused
  have event : startedEvent job.unpaused = startedEvent job := by
    rw [startedEvent, size]
    rfl
  rw [announce, event, size]
  rfl

/-- A choice starts no callback. -/
theorem flight_choose (job : Job T η) (idle : run.flight = none) (next : Option Slot) :
    (run.choose job next).flight = none := by
  cases eop : run.eopReached with
  | true =>
    obtain ⟨reports, succeeded⟩ := run.succeed_eq job
    rw [choose_of_eop eop, succeeded]
    exact idle
  | false =>
    cases next with
    | none =>
      rw [choose_none eop]
      exact flight_fail job run _
    | some slot =>
      cases reached : run.limitReached job with
      | none =>
        rw [choose_some eop reached]
        exact idle
      | some limit =>
        rw [choose_of_limitReached eop reached]
        exact flight_fail job run _

/-- **Between callbacks both jobs take the same step.** -/
theorem step_unpaused_of_idle (sound : Sound job run) (idle : run.flight = none) :
    run.unpaused.step job.unpaused = (run.step job).unpaused := by
  have asleep : run.awake.flight = none := idle
  rw [unpaused_of_idle idle]
  cases sound.phase with
  | atRest state =>
    rcases state with seeded | running
    · obtain ⟨reports, announced⟩ := run.awake.announce_eq job
      have still : ((run.awake.announce job).become .running).flight = none := by
        rw [announced]
        exact idle
      rw [step_of_seeded seeded, step_of_seeded seeded, announce_unpaused, unpaused_of_idle still]
    · rw [step_of_running running, step_of_running running,
        unpaused_of_idle (flight_choose job asleep _)]
      rfl
  | chosen slot state _ _ current ready =>
    obtain ⟨stage, processor, message, rest, found, hasProcessor, popped⟩ :=
      sound.exists_popped ready
    have hasTwin : job.unpaused.pipeline.processor? slot.stage = some processor.unpaused := by
      rw [show job.unpaused.pipeline.processor? slot.stage = _ from
        job.pipeline.processor?_unpaused slot.stage, hasProcessor]
      rfl
    have started : run.awake.start job slot = run.awake.opened slot processor message rest :=
      start_eq found hasProcessor popped
    have twinStarted : run.awake.start job.unpaused slot =
        run.awake.opened slot processor.unpaused message rest := start_eq found hasTwin popped
    -- The message is the same, and what handles it is the callback without pauses.
    rw [step_of_chosen state idle current, step_of_chosen state idle current, started, twinStarted]
    simp only [opened, Run.unpaused, Processor.handle_unpaused]
    rfl
  | inFlight flight _ _ isFlight => cases idle.symm.trans isFlight
  | succeeded _ state =>
    have isTerminal : run.state.isTerminal = true := by rw [state]; rfl
    rw [step_of_isTerminal isTerminal, step_of_isTerminal isTerminal, unpaused_of_idle asleep]
  | failed _ state =>
    have isTerminal : run.state.isTerminal = true := by rw [state]; rfl
    rw [step_of_isTerminal isTerminal, step_of_isTerminal isTerminal, unpaused_of_idle asleep]

/-! ## (4) Polls to the end of a callback -/

section Ending

variable {flight : Flight T} {stage : Stage T} {scene : Callback.Scene T}
  {result : Except Failure Unit}

/-- A callback that has come to its end is not in flight any longer. -/
theorem flight_settle (sound : Sound job run)
    (polled : run.Polled flight stage (.finished result) scene) :
    ((run.afterPoll job flight.slot.stage scene).settle job flight result).flight = none := by
  have found : (run.afterPoll job flight.slot.stage scene).stages[flight.slot.stage]? =
      some scene.stage.clearCaller := getElem?_afterPoll job scene polled.found
  cases violation : scene.stage.clearCaller.violation with
  | true =>
    rw [settle_of_violation found violation]
    exact flight_fail job _ _
  | false =>
    cases result with
    | error failure =>
      rw [settle_of_error found violation]
      exact flight_fail job _ _
    | ok =>
      obtain ⟨turn, earlier, acts, engaged, acted⟩ := exists_acted sound polled
      obtain ⟨reports, finished⟩ := finish_eq sound.toWired engaged acted
      rw [settle_of_ok found violation, finished]
      rfl

/-- Whether the callback in flight pauses makes no difference once the run fails. -/
theorem fail_unpaused (job : Job T η) (run : Run T η) (error : RunError) :
    run.unpaused.fail job.unpaused error = run.fail job error := rfl

/-- Nor does it once the callback has ended. -/
theorem settle_unpaused (job : Job T η) (run : Run T η) (flight : Flight T)
    (result : Except Failure Unit) :
    run.unpaused.settle job.unpaused flight.unpaused result = run.settle job flight result := by
  have handler : job.unpaused.handler = job.handler := rfl
  rw [settle_congr handler fun _ _ => rfl]
  rfl

/-- **A poll in which the callback ends is the same step for both jobs.** -/
theorem step_unpaused_of_finished (sound : Sound job run)
    (polled : run.awake.Polled flight stage (.finished result) scene) :
    run.unpaused.step job.unpaused = (run.step job).unpaused := by
  have isTwin : run.unpaused.flight = some flight.unpaused :=
    congrArg (Option.map Flight.unpaused) polled.isFlight
  have state : run.state = .delivering := polled.state
  have isFlight : run.flight = some flight := polled.isFlight
  have twinState : run.unpaused.state = .delivering := polled.state
  have twice := Callback.poll_unpaused_of_finished polled.polled
  rw [step_of_inFlight state isFlight, step_of_inFlight twinState isTwin]
  cases verdict : (job.handler.offer run.awake.received scene.stage.callerQueue).2.2 with
  | some failure =>
    rw [pollFlight_of_refused polled.found polled.polled verdict,
      unpaused_of_idle (flight_fail job _ _), ← fail_unpaused]
    exact pollFlight_of_refused polled.found twice verdict
  | none =>
    rw [pollFlight_of_finished polled.found polled.polled verdict,
      unpaused_of_idle (flight_settle sound.awake polled), ← settle_unpaused]
    exact pollFlight_of_finished polled.found twice verdict

end Ending

end Run

end Relay
