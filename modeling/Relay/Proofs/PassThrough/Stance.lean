import Relay.Proofs.PassThrough.Together

/-!
# Keeping pace with the twin

What a run and its twin are about to do. Either both are about to do the same, or the inserted stage
has something to do of its own, for which the run waits between two callbacks.

* `Run.Stance` tells these cases apart, and `Run.Paired` is the relation that all steps keep.
* `Run.abreast_announce`, `Run.abreast_choose` and the like are the steps that need no callback.
-/

namespace Relay.Run

variable {T : Traffic} {η : Type} {k : Nat} {job : Job T η} {name : String} {run twin : Run T η}

/-! ## (1) The relation -/

/-- The number of messages of a kind that the inserted stage has been called with. -/
def forwarded (k : Nat) (kind : MessageKind) (twin : Run T η) : Nat :=
  Turn.forwards k kind (Turn.ofPast twin.past)

/-- **A callback in flight and its twin** are alike from where they stand. -/
structure FlightAlike (k : Nat) (run : Run T η) (flight other : Flight T) : Prop where
  slot : other.slot = flight.slot.shift k
  processor : other.processor = flight.processor
  callback : ∀ stage, run.stages[flight.slot.stage]? = some stage →
    Callback.Alike stage.violation flight.callback other.callback

/-- **A run and its twin abreast**: both are about to do the same, or have come to the same end. -/
structure Abreast (job : Job T η) (k : Nat) (run twin : Run T η) : Prop
    extends Alongside job k [] run twin where
  state : twin.state = run.state
  current : twin.current = run.current.map (Slot.shift k)
  idle : run.flight = none → twin.flight = none
  flight : ∀ flight, run.flight = some flight →
    ∃ other, twin.flight = some other ∧ FlightAlike k run flight other
  outcome : twin.outcome = run.outcome.map
    (outcomeWithPass k (twin.forwarded k .request) (twin.forwarded k .response))

/-- **What a run and its twin are about to do.** -/
inductive Stance (job : Job T η) (k : Nat) (name : String) (run twin : Run T η) : Prop where
  /-- Both are abreast. -/
  | abreast (abreast : Abreast job k run twin)
  /-- The inserted stage is about to be called. -/
  | chosen (kind : MessageKind) (along : Alongside job k [] run twin) (state : run.state = .running)
      (twinState : twin.state = .delivering) (flight : twin.flight = none)
      (current : twin.current = some ⟨k, kind⟩)
  /-- The inserted stage is about to forward a message. -/
  | forwarding (message : Message T) (turn : Turn T) (earlier : List (Turn T))
      (along : Alongside job k [message] run twin) (state : run.state = .running)
      (twinState : twin.state = .delivering)
      (flight : twin.flight =
        some ⟨⟨k, message.kind⟩, name, (Processor.passThrough name).handle message⟩)
      (turns : Turn.ofPast twin.past = turn :: earlier) (called : turn.call.message = message)

/-- **A run paired with its twin.** -/
structure Paired (job : Job T η) (k : Nat) (name : String) (run twin : Run T η) : Prop where
  sound : Sound job run
  twinSound : Sound (job.withPass k name) twin
  stance : Stance job k name run twin

/-- The number of messages that wait at the inserted stage. -/
def backlog (twin : Run T η) (k : Nat) : Nat :=
  (twin.pendingAt ⟨k, .request⟩).length + (twin.pendingAt ⟨k, .response⟩).length

/-- **The steps that the inserted stage may still take** before the run goes on: three for each
message that waits there, less those that it has taken for the message that it is about. -/
def lag (k : Nat) (twin : Run T η) : Nat :=
  3 * twin.backlog k +
    if twin.flight.isSome then 3 else if twin.state = .delivering then 1 else 2

/-- What a twin that is about to choose a message may still have to do. -/
theorem lag_of_running (state : twin.state = .running) (flight : twin.flight = none) :
    lag k twin = 3 * twin.backlog k + 2 := by
  rw [lag, state, flight]
  rfl

/-- What a twin that is about to start a callback may still have to do. -/
theorem lag_of_chosen (state : twin.state = .delivering) (flight : twin.flight = none) :
    lag k twin = 3 * twin.backlog k + 1 := by
  rw [lag, state, flight]
  rfl

/-- What a twin with a callback in flight may still have to do. -/
theorem lag_of_inFlight {flight : Flight T} (isFlight : twin.flight = some flight) :
    lag k twin = 3 * twin.backlog k + 3 := by
  rw [lag, isFlight]
  rfl

/-! ## (2) Reports -/

namespace Akin

/-- A run is akin to itself. -/
theorem refl (run : Run T η) : Akin run run := ⟨rfl, rfl, rfl, rfl, rfl, rfl, rfl, rfl, rfl, rfl⟩

/-- What is akin to what is akin. -/
theorem trans {first second third : Run T η} (early : Akin first second)
    (late : Akin second third) : Akin first third where
  stages := late.stages.trans early.stages
  eop := late.eop.trans early.eop
  steps := late.steps.trans early.steps
  requests := late.requests.trans early.requests
  responses := late.responses.trans early.responses
  delivered := late.delivered.trans early.delivered
  received := late.received.trans early.received
  memory := late.memory.trans early.memory
  turns := late.turns.trans early.turns
  verdicts := late.verdicts.trans early.verdicts

/-- To be told of a pause or not makes no difference. -/
theorem awake (run : Run T η) : Akin run run.awake :=
  ⟨rfl, rfl, rfl, rfl, rfl, rfl, rfl, rfl, rfl, rfl⟩

/-- A change of state makes no difference. -/
theorem become (run : Run T η) (next : RunState) : Akin run (run.become next) := by
  have akin := reporting run (.ofRecord (.transition run.state next))
  exact ⟨rfl, rfl, rfl, rfl, rfl, rfl, rfl, rfl, akin.turns, akin.verdicts⟩

/-- The choice of a message makes no difference. -/
theorem choose (run : Run T η) (slot : Slot) :
    Akin run ({ run with current := some slot }.become .delivering) := by
  have chosen : Akin run { run with current := some slot } :=
    ⟨rfl, rfl, rfl, rfl, rfl, rfl, rfl, rfl, rfl, rfl⟩
  exact chosen.trans (.become _ .delivering)

/-- To be announced makes no difference. -/
theorem announce (job : Job T η) (run : Run T η) : Akin run (run.announce job) := by
  obtain ⟨reports, announced⟩ := run.announce_eq job
  rw [announced]
  exact reporting run reports

/-- Success makes no difference to what has been done. -/
theorem succeed (job : Job T η) (run : Run T η) : Akin run (run.succeed job) := by
  obtain ⟨reports, succeeded⟩ := run.succeed_eq job
  have akin := reporting run reports
  rw [succeeded]
  exact ⟨rfl, rfl, rfl, rfl, rfl, rfl, rfl, rfl, akin.turns, akin.verdicts⟩

/-- To go on choosing makes no difference. -/
theorem resume (run : Run T η) (reports : Reports T) :
    Akin run { run.reporting reports with state := .running } := by
  have akin := reporting run reports
  exact ⟨rfl, rfl, rfl, rfl, rfl, rfl, rfl, rfl, akin.turns, akin.verdicts⟩

/-- The inserted stage has forwarded the same. -/
theorem forwarded {next : Run T η} (akin : Akin run next) (kind : MessageKind) :
    next.forwarded k kind = run.forwarded k kind := by
  rw [Run.forwarded, akin.turns]
  rfl

end Akin

/-! ## (3) Ends -/

/-- The twin has one more stage. -/
theorem length_alongside (within : k < job.pipeline.size) (wired : Wired job run)
    (twinWired : Wired (job.withPass k name) twin) :
    twin.stages.length = run.stages.length + 1 := by
  rw [twinWired.length_eq, wired.length_eq, job.size_withPass within]

/-- The steps of the twin are those of the run and those of the inserted stage. -/
theorem Alongside.steps_eq (along : Alongside job k [] run twin) :
    twin.steps = run.steps + (twin.forwarded k .request + twin.forwarded k .response) :=
  along.steps

/-- **The summary of the twin** counts what the inserted stage has done. -/
theorem summary_alongside (within : k < job.pipeline.size) (along : Alongside job k [] run twin)
    (wired : Wired job run) (twinWired : Wired (job.withPass k name) twin) :
    twin.summary (job.withPass k name) =
      (run.summary job).withPass (twin.forwarded k .request) (twin.forwarded k .response) := by
  rw [summary, summary, RunSummary.withPass, length_alongside within wired twinWired,
    along.steps_eq, along.requests, along.responses, along.delivered]
  rfl

/-- **Both fail with the same error**, as the pipelines tell it. -/
theorem abreast_fail (along : Alongside job k [] run twin)
    (current : twin.current = run.current.map (Slot.shift k)) (error : RunError)
    {twinError : RunError} (same : twinError =
      error.withPass k (twin.forwarded k .request + twin.forwarded k .response)) :
    Abreast job k (run.fail job error) (twin.fail (job.withPass k name) twinError) := by
  subst same
  have twinAkin := Akin.fail (job.withPass k name) twin
    (error.withPass k (twin.forwarded k .request + twin.forwarded k .response))
  have counts := fun kind => twinAkin.forwarded (k := k) kind
  have failing := along.of_akin (Akin.fail job run error) twinAkin
  obtain ⟨reports, failed⟩ := run.fail_eq job error
  obtain ⟨twinReports, twinFailed⟩ := twin.fail_eq (job.withPass k name)
    (error.withPass k (twin.forwarded k .request + twin.forwarded k .response))
  refine ⟨failing, ?_, ?_, fun _ => ?_, fun flight isFlight => ?_, ?_⟩
  · rw [failed, twinFailed]
  · rw [failed, twinFailed]
    exact current
  · rw [twinFailed]
  · rw [failed] at isFlight
    cases isFlight
  · rw [counts, counts, failed, twinFailed]
    rfl

/-- **Both succeed.** -/
theorem abreast_succeed (within : k < job.pipeline.size) (along : Alongside job k [] run twin)
    (wired : Wired job run) (twinWired : Wired (job.withPass k name) twin)
    (flight : run.flight = none) (twinFlight : twin.flight = none)
    (current : twin.current = run.current.map (Slot.shift k)) :
    Abreast job k (run.succeed job) (twin.succeed (job.withPass k name)) := by
  have twinAkin := Akin.succeed (job.withPass k name) twin
  have counts := fun kind => twinAkin.forwarded (k := k) kind
  have succeeding := along.of_akin (Akin.succeed job run) twinAkin
  obtain ⟨reports, succeeded⟩ := run.succeed_eq job
  obtain ⟨twinReports, twinSucceeded⟩ := twin.succeed_eq (job.withPass k name)
  refine ⟨succeeding, ?_, ?_, fun _ => ?_, fun other isFlight => ?_, ?_⟩
  · rw [succeeded, twinSucceeded]
  · rw [succeeded, twinSucceeded]
    exact current
  · rw [twinSucceeded]
    exact twinFlight
  · rw [succeeded] at isFlight
    cases flight.symm.trans isFlight
  · rw [counts, counts, succeeded, twinSucceeded, summary_alongside within along wired twinWired]
    rfl

/-! ## (4) Steps between callbacks -/

/-- **Runs under way are abreast** if they are about to do the same and no callback is in flight. -/
theorem abreast_of_idle (along : Alongside job k [] run twin) (state : twin.state = run.state)
    (current : twin.current = run.current.map (Slot.shift k)) (flight : run.flight = none)
    (twinFlight : twin.flight = none) (outcome : run.outcome = none)
    (twinOutcome : twin.outcome = none) : Abreast job k run twin := by
  refine ⟨along, state, current, fun _ => twinFlight, fun other isFlight => ?_, ?_⟩
  · cases flight.symm.trans isFlight
  · rw [outcome, twinOutcome]
    rfl

/-- To be told of a pause or not makes no difference. -/
theorem Abreast.awake (abreast : Abreast job k run twin) : Abreast job k run.awake twin.awake where
  toAlongside := abreast.toAlongside.of_akin (.awake run) (.awake twin)
  state := abreast.state
  current := abreast.current
  idle := abreast.idle
  flight flight isFlight := by
    obtain ⟨other, isOther, alike⟩ := abreast.flight flight isFlight
    exact ⟨other, isOther, alike.slot, alike.processor, alike.callback⟩
  outcome := abreast.outcome

/-- **Both are announced.** -/
theorem abreast_announce (along : Alongside job k [] run twin)
    (current : twin.current = run.current.map (Slot.shift k)) (flight : run.flight = none)
    (twinFlight : twin.flight = none) (outcome : run.outcome = none)
    (twinOutcome : twin.outcome = none) :
    Abreast job k ((run.announce job).become .running)
      ((twin.announce (job.withPass k name)).become .running) := by
  have announcing := along.of_akin ((Akin.announce job run).trans (.become _ .running))
    ((Akin.announce (job.withPass k name) twin).trans (.become _ .running))
  obtain ⟨reports, announced⟩ := run.announce_eq job
  obtain ⟨twinReports, twinAnnounced⟩ := twin.announce_eq (job.withPass k name)
  -- Both announcements come down to reports.
  rw [announced, twinAnnounced] at announcing ⊢
  exact abreast_of_idle announcing rfl current flight twinFlight outcome twinOutcome

/-- **Both choose the same message.** -/
theorem abreast_choose (along : Alongside job k [] run twin) (slot : Slot)
    (flight : run.flight = none) (twinFlight : twin.flight = none) (outcome : run.outcome = none)
    (twinOutcome : twin.outcome = none) :
    Abreast job k ({ run with current := some slot }.become .delivering)
      ({ twin with current := some (slot.shift k) }.become .delivering) := by
  have chosen := along.of_akin (.choose run slot) (.choose twin (slot.shift k))
  exact abreast_of_idle chosen rfl rfl flight twinFlight outcome twinOutcome

end Relay.Run
