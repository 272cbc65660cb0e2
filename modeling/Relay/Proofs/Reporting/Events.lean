import Relay.Proofs.Delivery
import Relay.Proofs.Privacy.Frame
import Relay.Proofs.Reporting.Interference

/-!
# Events of a run

A run whose events are wanted sends two of them to its sink. The first one reports its start, before
anything else happens; the second one reports how it has come out, when everything else has happened
and nothing is left to do but to return what the event tells.

* `Event.TellsStart`, `Event.TellsSuccess` and `Event.TellsFailure` say what the events tell.
* `Run.Reached.begins` and `Run.Reached.ends` say where they stand in the journal.
* `Run.step_onSink` says that the sink makes no difference to a run whose events are not wanted.
* `Run.events_bracket_runs` is the result.
-/

namespace Relay

variable {T : Traffic} {η : Type}

/-! ## (1) What events tell -/

namespace Event

/-- What an event tells under a key. -/
def get? (event : Event) (key : String) : Option Json := event.data.bind (·.get? key)

/-- **An event that tells of the start of a run**: of its pipeline with its map and, if it has one,
its service. -/
structure TellsStart (event : Event) (job : Job T η) : Prop where
  type : event.type = "pipeline.started"
  pipeline : event.get? "pipeline_name" = some (.text job.pipeline.name)
  runId : event.get? "run_id" = some (.text job.runId.text)
  stageCount : event.get? "stage_count" = some (.nat job.pipeline.size)
  mapId : event.get? "map_id" = some (.text job.pipeline.metadata.map.id)
  serviceId : event.get? "service_id" =
    some ((job.pipeline.metadata.service.map (·.id)).elim .null .text)

/-- **An event that tells of success**: of what the summary counts. -/
structure TellsSuccess (event : Event) (summary : RunSummary) : Prop where
  type : event.type = "pipeline.completed"
  runId : event.get? "run_id" = some (.text summary.runId.text)
  pipeline : event.get? "pipeline" = some (.text summary.pipeline)
  stageCount : event.get? "stage_count" = some (.nat summary.stageCount)
  steps : event.get? "steps" = some (.nat summary.steps)
  requestsProcessed : event.get? "requests_processed" = some (.nat summary.requestsProcessed)
  responsesProcessed : event.get? "responses_processed" = some (.nat summary.responsesProcessed)
  responsesDelivered : event.get? "responses_delivered" = some (.nat summary.responsesDelivered)
  durationMs : event.get? "duration_ms" = some (.number (.real summary.durationMs))

/-- **An event that tells of failure**: of the error and its stage, if it has one. -/
structure TellsFailure (event : Event) (job : Job T η) (steps : Nat) (error : RunError) :
    Prop where
  type : event.type = "pipeline.failed"
  runId : event.get? "run_id" = some (.text job.runId.text)
  pipeline : event.get? "pipeline" = some (.text job.pipeline.name)
  steps : event.get? "steps" = some (.nat steps)
  code : event.get? "code" = some (.text error.code)
  stage : event.get? "stage" = some (error.stage?.elim .null .nat)
  error : event.get? "error" = some (.text error.message)

/-- The event at the start tells of the start. -/
theorem tellsStart_startedEvent (job : Job T η) : (Run.startedEvent job).TellsStart job where
  type := rfl
  pipeline := rfl
  runId := rfl
  stageCount := rfl
  mapId := rfl
  serviceId := by
    have written : (Run.startedEvent job).get? "service_id" =
        some (Json.option .text (job.pipeline.metadata.service.map (·.id))) := rfl
    rw [written]
    cases job.pipeline.metadata.service <;> rfl

/-- The event at the end of a run that succeeds tells of success. -/
theorem tellsSuccess_completedEvent (summary : RunSummary) :
    summary.completedEvent.TellsSuccess summary :=
  ⟨rfl, rfl, rfl, rfl, rfl, rfl, rfl, rfl, rfl⟩

/-- The event at the end of a run that fails tells of failure. -/
theorem tellsFailure_failedEvent (job : Job T η) (run : Run T η) (error : RunError) :
    (Run.failedEvent job run error).TellsFailure job run.steps error where
  type := rfl
  runId := rfl
  pipeline := rfl
  steps := rfl
  code := rfl
  stage := by
    have written : (Run.failedEvent job run error).get? "stage" =
        some (Json.option .nat error.stage?) := rfl
    rw [written]
    cases error.stage? <;> rfl
  error := rfl

/-- **The stage of a failure** is left open for exactly the errors that have none. -/
theorem TellsFailure.stage_eq_null_iff {event : Event} {job : Job T η} {steps : Nat}
    {error : RunError} (tells : event.TellsFailure job steps error) :
    event.get? "stage" = some .null ↔ error.stage? = none := by
  rw [tells.stage]
  cases error.stage? with
  | none => simp
  | some stage => simp [Json.nat]

end Event

namespace Run

variable {job : Job T η} {run next : Run T η} {result : Except RunError RunSummary}

/-! ## (2) The beginning and the end of a journal -/

/-- The event that reports how a run has come out. -/
def endedEvent (job : Job T η) (run : Run T η) : Except RunError RunSummary → Event
  | .ok summary => summary.completedEvent
  | .error error => failedEvent job run error

/-- **The end of a journal**: an event, and behind it nothing but what the sink writes about it. -/
def EndsWith (job : Job T η) (run : Run T η) (event : Event) : Prop :=
  ∃ before, run.past =
    ((job.sink.records event).map Entry.logged).reverse ++ .emitted event :: before

/-- An event that is wanted goes to the journal, and then what the sink writes about it. -/
theorem past_emit (wanted : job.config.emitEvents = true) (run : Run T η) (event : Event) :
    (run.emit job event).past =
      ((job.sink.records event).map Entry.logged).reverse ++ .emitted event :: run.past := by
  unfold emit
  rw [if_pos wanted, past_foldl_record]
  rfl

/-- An event that is wanted comes last. -/
theorem endsWith_emit (wanted : job.config.emitEvents = true) (event : Event) :
    (run.emit job event).EndsWith job event := ⟨run.past, past_emit wanted run event⟩

/-- **The failure of a run** is reported last. -/
theorem endsWith_fail (wanted : job.config.emitEvents = true) (error : RunError) :
    (run.fail job error).EndsWith job (failedEvent job (run.fail job error) error) := by
  rw [failedEvent_congr (steps_fail job run error)]
  exact endsWith_emit wanted _

/-- **The success of a run** is reported last. -/
theorem endsWith_succeed (wanted : job.config.emitEvents = true) :
    (run.succeed job).EndsWith job (run.summary job).completedEvent := endsWith_emit wanted _

/-- **A move that ends a run** reports how it has come out. -/
theorem endsWith_of_move (wanted : job.config.emitEvents = true) (sound : Sound job run)
    (move : Move job run next) (unfinished : run.outcome = none)
    (finished : next.outcome = some result) : next.EndsWith job (endedEvent job next result) := by
  have failed {before : Run T η} {error : RunError}
      (isResult : (before.fail job error).outcome = some result) :
      (before.fail job error).EndsWith job (endedEvent job (before.fail job error) result) := by
    obtain rfl := Option.some.inj ((outcome_fail job before error).symm.trans isResult)
    exact endsWith_fail wanted error
  have goesOn (still : next.outcome = none) :
      next.EndsWith job (endedEvent job next result) := by
    cases still.symm.trans finished
  cases move with
  | announce =>
    obtain ⟨reports, announced⟩ := run.announce_eq job
    refine goesOn ?_
    rw [announced]
    exact unfinished
  | succeed =>
    obtain ⟨reports, succeeded⟩ := run.succeed_eq job
    have isSummary : (run.succeed job).outcome = some (.ok (run.summary job)) := by
      rw [succeeded]
    obtain rfl := Option.some.inj (isSummary.symm.trans finished)
    exact endsWith_succeed wanted
  | starve => exact failed finished
  | exceed => exact failed finished
  | choose => exact goesOn unfinished
  | start => exact goesOn unfinished
  | refuse => exact failed finished
  | wait => exact goesOn unfinished
  | overreach => exact failed finished
  | fail => exact failed finished
  | finish flight stage scene polled =>
    obtain ⟨turn, earlier, acts, engaged, acted⟩ := exists_acted sound polled
    obtain ⟨reports, routed⟩ := finish_eq sound.toWired engaged acted
    refine goesOn ?_
    rw [routed]
    exact unfinished
  | stop => exact goesOn unfinished

namespace Reached

/-- **The start of a run is reported first**, before anything else happens. -/
theorem begins (wanted : job.config.emitEvents = true) (reached : Reached job run) :
    (run.state = .seeded ∧ run.past = []) ∨
      ∃ later, run.past = later ++ [.emitted (startedEvent job)] := by
  induction reached with
  | seed => exact .inl ⟨rfl, rfl⟩
  | @step run before ih =>
    right
    rcases ih with ⟨seeded, nothing⟩ | ⟨later, begun⟩
    · have announced := past_emit wanted run.awake (startedEvent job)
      rw [show run.awake.past = [] from nothing] at announced
      rw [step_of_seeded seeded]
      refine ⟨.logged (.transition (run.awake.announce job).state .running) ::
        .logged (.runOpened job.runId job.pipeline.name job.pipeline.size) ::
          ((job.sink.records (startedEvent job)).map Entry.logged).reverse, ?_⟩
      show _ :: _ :: (run.awake.emit job (startedEvent job)).past = _
      rw [announced]
      rfl
    · obtain ⟨news, grown⟩ := exists_news before.sound
      exact ⟨news ++ later, by rw [grown, begun, List.append_assoc]⟩
  | remember _ _ ih => exact ih

/-- **How a run has come out is reported last**, and a summary is that of the run. -/
theorem ends (wanted : job.config.emitEvents = true) (reached : Reached job run)
    (finished : run.outcome = some result) :
    run.EndsWith job (endedEvent job run result) ∧
      ∀ summary, result = .ok summary → summary = run.summary job := by
  induction reached with
  | seed => cases finished
  | @step run before ih =>
    cases outcome : run.outcome with
    | some earlier =>
      have same := step_of_finished before.sound outcome
      rw [same] at finished ⊢
      exact ih finished
    | none =>
      have move := move_step before.sound
      refine ⟨endsWith_of_move wanted before.sound.awake move outcome finished, ?_⟩
      rintro summary rfl
      rcases outcome_of_move before.sound.awake move with ⟨same, -⟩ | ⟨-, ends⟩
      · cases (outcome.symm.trans same.symm).trans finished
      · rcases ends with unfinished | ⟨error, failed⟩ | returned
        · cases unfinished.symm.trans finished
        · cases failed.symm.trans finished
        · exact Except.ok.inj (Option.some.inj (finished.symm.trans returned))
  | remember _ _ ih => exact ih finished

end Reached

/-! ## (3) All events -/

/-- The events that the sink gets of one that there is to report. -/
def heard (job : Job T η) (event : Event) : List Event :=
  if job.config.emitEvents then [event] else []

/-- What is told is heard. -/
theorem filterMap_told (job : Job T η) (event : Event) :
    (job.told event).filterMap Milestone.event? = heard job event := by
  unfold Job.told heard
  split <;> rfl

/-- **All events of a run**: that of its start, once it is announced, and that of its end, once it
has come to its end. -/
theorem events_of_course {milestones : List Milestone} (sound : Sound job run)
    (course : Course job run milestones) :
    milestones.filterMap Milestone.event? =
      (if run.state = .seeded then [] else heard job (startedEvent job)) ++
        run.outcome.elim [] fun result => heard job (endedEvent job run result) := by
  have unfinished (state : run.state.isTerminal = false) : run.outcome = none := by
    cases outcome : run.outcome with
    | none => rfl
    | some result =>
      cases sound.phase with
      | atRest _ none => cases none.symm.trans outcome
      | chosen _ _ none => cases none.symm.trans outcome
      | inFlight _ _ none => cases none.symm.trans outcome
      | succeeded _ terminated => simp [terminated, RunState.isTerminal] at state
      | failed _ failed => simp [failed, RunState.isTerminal] at state
  cases course with
  | seeded state =>
    rw [if_pos state, unfinished (by simp [state, RunState.isTerminal])]
    rfl
  | running state =>
    rw [if_neg (by simp [state]), unfinished (by simp [state, RunState.isTerminal]),
      events_beginning, filterMap_told]
    exact (List.append_nil _).symm
  | delivering state =>
    rw [if_neg (by simp [state]), unfinished (by simp [state, RunState.isTerminal]),
      List.filterMap_append, events_beginning, filterMap_told]
    rfl
  | terminated summary state outcome =>
    rw [if_neg (by simp [state]), outcome, List.filterMap_append, events_beginning,
      filterMap_told, List.filterMap_cons, Milestone.event?, filterMap_told]
    rfl
  | failedChoosing error state outcome =>
    rw [if_neg (by simp [state]), outcome, List.filterMap_append, events_beginning,
      filterMap_told, List.filterMap_cons, Milestone.event?, filterMap_told]
    rfl
  | failedDelivering error state outcome =>
    rw [if_neg (by simp [state]), outcome, List.filterMap_append, events_beginning,
      filterMap_told, List.filterMap_cons, Milestone.event?, List.filterMap_cons,
      Milestone.event?, filterMap_told]
    rfl

/-- **The events of a run** in any state that it can come to. -/
theorem Reached.events_eq (reached : Reached job run) :
    Journal.events run.journal =
      (if run.state = .seeded then [] else heard job (startedEvent job)) ++
        run.outcome.elim [] fun result => heard job (endedEvent job run result) := by
  obtain ⟨milestones, course, chronicled⟩ := reached.course
  rw [chronicled.events_eq, events_of_course reached.sound course]

/-- **A run whose events are not wanted has none.** -/
theorem Reached.events_of_unwanted (unwanted : job.config.emitEvents = false)
    (reached : Reached job run) : Journal.events run.journal = [] := by
  have nothing (event : Event) : heard job event = [] := if_neg (by simp [unwanted])
  rw [reached.events_eq]
  simp only [nothing, ite_self, List.nil_append]
  cases run.outcome <;> rfl

/-! ## (4) Reports -/

/-- **How a run is reported** whose events are wanted. -/
structure Reported (job : Job T η) (run : Run T η) : Prop where
  /-- Before its end, no more than its start is reported. -/
  underWay : run.outcome = none →
    Journal.events run.journal = if run.state = .seeded then [] else [startedEvent job]
  /-- Of two events the one stands before all else, the other behind all else but what the sink
  writes about it. -/
  ended : ∀ result, run.outcome = some result → ∃ middle,
    run.journal = .emitted (startedEvent job) :: middle ++
      .emitted (endedEvent job run result) ::
        (job.sink.records (endedEvent job run result)).map .logged ∧
    Journal.events middle = []
  start : (startedEvent job).TellsStart job
  success : ∀ summary, run.outcome = some (.ok summary) →
    (endedEvent job run (.ok summary)).TellsSuccess summary ∧ summary = run.summary job ∧
      summary.runId = job.runId
  failure : ∀ error, run.outcome = some (.error error) →
    (endedEvent job run (.error error)).TellsFailure job run.steps error ∧
      ((endedEvent job run (.error error)).get? "stage" = some .null ↔ error.stage? = none)
  /-- Callbacks see the identifier that the events tell of. -/
  views : ∀ flight stage, run.flight = some flight →
    run.stages[flight.slot.stage]? = some stage →
    ∀ view ∈ flight.callback.views ⟨stage, run.memory, run.past⟩, view.runId = job.runId

/-- **Where the two events stand** when a run has come to its end. -/
theorem Reached.exists_middle (wanted : job.config.emitEvents = true) (reached : Reached job run)
    (finished : run.outcome = some result) :
    ∃ middle, run.journal = .emitted (startedEvent job) :: middle ++
        .emitted (endedEvent job run result) ::
          (job.sink.records (endedEvent job run result)).map .logged ∧
      Journal.events middle = [] := by
  have notSeeded : run.state ≠ .seeded := by
    intro seeded
    cases (reached.sound.atRest seeded (.inl rfl)).1.symm.trans finished
  have heardAll (event : Event) : heard job event = [event] := if_pos wanted
  have events := reached.events_eq
  rw [if_neg notSeeded, finished, Option.elim_some, heardAll, heardAll] at events
  obtain ⟨⟨before, isLast⟩, -⟩ := reached.ends wanted finished
  have journal : run.journal = before.reverse ++ .emitted (endedEvent job run result) ::
      (job.sink.records (endedEvent job run result)).map .logged := by
    rw [Run.journal, isLast]
    simp
  have quiet : Journal.events ((job.sink.records (endedEvent job run result)).map
      (Entry.logged (T := T))) = [] := by
    rw [Journal.events, List.filterMap_map]
    exact List.filterMap_eq_nil_iff.mpr fun _ _ => rfl
  -- Of the two events, the first one is among what comes before the second.
  have first : Journal.events before.reverse = [startedEvent job] := by
    rw [journal, Journal.events_append] at events
    have last : Journal.events (.emitted (endedEvent job run result) ::
        (job.sink.records (endedEvent job run result)).map (Entry.logged (T := T))) =
          [endedEvent job run result] := congrArg (_ :: ·) quiet
    rw [last] at events
    exact List.append_cancel_right events
  rcases reached.begins wanted with ⟨seeded, -⟩ | ⟨later, isFirst⟩
  · exact absurd seeded notSeeded
  · have starts : run.journal = .emitted (startedEvent job) :: later.reverse := by
      rw [Run.journal, isFirst]
      simp
    cases earlier : before.reverse with
    | nil =>
      rw [earlier] at first
      cases first
    | cons entry middle =>
      rw [journal, earlier, List.cons_append] at starts
      obtain ⟨rfl, -⟩ := List.cons.inj starts
      refine ⟨middle, ?_, ?_⟩
      · rw [journal, earlier]
      · rw [earlier] at first
        exact (List.cons.inj first).2

/-- The views of callbacks show the identifier of the run. -/
theorem Sound.runId_of_mem_views (sound : Sound job run) {index : Nat} {stage : Stage T}
    (found : run.stages[index]? = some stage) {callback : Callback T Unit} {view : StageView T}
    (isShown : view ∈ callback.views ⟨stage, run.memory, run.past⟩) : view.runId = job.runId := by
  obtain ⟨_, -, blank⟩ := sound.exists_processor found
  have sameId : view.outline.runId = stage.view.outline.runId :=
    congrArg StageView.runId (Callback.outline_of_mem_views isShown)
  exact sameId.trans (congrArg Stage.runId blank)

/-- **Every run whose events are wanted is reported**, whatever other runs do meanwhile. -/
theorem Reached.reported (wanted : job.config.emitEvents = true) (reached : Reached job run) :
    Reported job run where
  underWay unfinished := by
    have heardAll (event : Event) : heard job event = [event] := if_pos wanted
    rw [reached.events_eq, unfinished, heardAll]
    exact List.append_nil _
  ended result finished := reached.exists_middle wanted finished
  start := Event.tellsStart_startedEvent job
  success summary succeeded := by
    have own := (reached.ends wanted succeeded).2 summary rfl
    exact ⟨Event.tellsSuccess_completedEvent summary, own, congrArg RunSummary.runId own⟩
  failure error failed := by
    have tells := Event.tellsFailure_failedEvent job run error
    exact ⟨tells, tells.stage_eq_null_iff⟩
  views flight stage isFlight found view isShown :=
    reached.sound.runId_of_mem_views found isShown

/-! ## (5) Runs whose events are not wanted -/

end Run

/-- The job with another sink. -/
def Job.onSink (job : Job T η) (sink : EventSink) : Job T η := { job with sink }

namespace Run

section

variable {job : Job T η} {sink : EventSink}

/-- Events that are not wanted reach no sink. -/
theorem emit_onSink (unwanted : job.config.emitEvents = false) :
    emit (job.onSink sink) = emit job := by
  funext run event
  have unwantedThere : ¬ (job.onSink sink).config.emitEvents = true := by
    simp [Job.onSink, unwanted]
  rw [emit, emit, if_neg unwantedThere, if_neg (by simp [unwanted])]

/-- So a failure is the same with any sink. -/
theorem fail_onSink (unwanted : job.config.emitEvents = false) :
    fail (job.onSink sink) = fail job := by
  funext run error
  unfold fail
  rw [emit_onSink unwanted]
  rfl

/-- No message takes notice of the sink on its way. -/
theorem routeAll_onSink : routeAll (job.onSink sink) = routeAll job := by
  funext stage run sent
  induction sent generalizing run with
  | nil => rfl
  | cons message rest ih =>
    have sameWay : routeOne (job.onSink sink) = routeOne job := rfl
    simp only [routeAll, sameWay, ih]

/-- So is routing. -/
theorem route_onSink (unwanted : job.config.emitEvents = false) :
    route (job.onSink sink) = route job := by
  funext run stage
  unfold route
  rw [fail_onSink unwanted, routeAll_onSink]

/-- So is the choice of a message. -/
theorem choose_onSink (unwanted : job.config.emitEvents = false) :
    choose (job.onSink sink) = choose job := by
  funext run next
  unfold choose succeed
  rw [emit_onSink unwanted, fail_onSink unwanted]
  rfl

/-- So is a poll of the callback in flight. -/
theorem pollFlight_onSink (unwanted : job.config.emitEvents = false) :
    pollFlight (job.onSink sink) = pollFlight job := by
  funext run flight
  unfold pollFlight settle
  rw [route_onSink unwanted, fail_onSink unwanted]
  rfl

/-- So is the start of a callback. -/
theorem start_onSink (unwanted : job.config.emitEvents = false) :
    start (job.onSink sink) = start job := by
  funext run slot
  unfold start
  rw [route_onSink unwanted]
  rfl

/-- **So is every step**: the sink makes no difference to a run whose events are not wanted. -/
theorem step_onSink (unwanted : job.config.emitEvents = false) :
    step (job.onSink sink) = step job := by
  funext run
  unfold step stepBy announce
  rw [emit_onSink unwanted, choose_onSink unwanted, pollFlight_onSink unwanted,
    start_onSink unwanted]
  rfl

/-- **The whole run is the same with any sink.** -/
theorem after_onSink (unwanted : job.config.emitEvents = false) (received : η) (memory : T.Memory)
    (n : Nat) :
    (seed (job.onSink sink) received memory).after (job.onSink sink) n =
      (seed job received memory).after job n := by
  induction n with
  | zero => rfl
  | succ n ih => rw [after, after, ih, step_onSink unwanted]

end

/-! ## (6) The result -/

/-- **Lifecycle events bracket and describe every run.** If events are wanted, each state of a run
is reported as it should be; if they are not, there are none, and which sink there is makes no
difference. The same holds of runs that are polled in turn with others, in any order and with
processors that remember things across them: the part that one run has in what all of them do is its
journal. -/
theorem events_bracket_runs :
    (∀ (job : Job T η) (received : η) (memory : T.Memory) (n : Nat),
      let run := (seed job received memory).after job n
      (job.config.emitEvents = true → Reported job run) ∧
      (job.config.emitEvents = false → Journal.events run.journal = [] ∧
        ∀ sink, (seed (job.onSink sink) received memory).after (job.onSink sink) n = run)) ∧
    (∀ (starts : List (Job T η × η)) (memory : T.Memory) (fuel : Nat) (order : List Nat)
      (index : Nat) (member : Member T η),
      let fleet := (Fleet.ofStarts starts memory).pollAll fuel order
      fleet.members[index]? = some member →
      (fleet.chronicle.filter (·.1 = index)).map (·.2) = member.run.journal ∧
      (member.job.config.emitEvents = true → Reported member.job member.run) ∧
      (member.job.config.emitEvents = false → Journal.events member.run.journal = [])) := by
  constructor
  · intro job received memory n run
    have reached : Reached job run := (Reached.seed received memory).after n
    refine ⟨fun wanted => reached.reported wanted, fun unwanted => ?_⟩
    exact ⟨reached.events_of_unwanted unwanted,
      fun sink => after_onSink unwanted received memory n⟩
  · intro starts memory fuel order index member fleet isMember
    have mixed : Fleet.Mixed fleet := Fleet.mixed_pollAll starts memory fuel order
    have reached := mixed.reached isMember
    refine ⟨?_, fun wanted => reached.reported wanted, reached.events_of_unwanted⟩
    have past := mixed.past isMember
    rw [Fleet.pastOf] at past
    rw [Fleet.chronicle, List.filter_reverse, List.map_reverse, past]
    rfl

end Run

end Relay
