import Relay.Proofs.Logging.Faithful
import Relay.Proofs.Reporting.Events

/-!
# Events in the log

A sink may write about events into the log of their run, which changes nothing else. A run with any
sink is, step for step, the run with a silent one, in whose journal the records of the sink have
been put behind each event. So the log of a finished run whose sink writes one record for each event
is the log with a silent sink between two more records, as far as these are not cut off.

* `Run.echoed` puts the records of a sink into the journal of a run.
* `Run.step_echoed` says that steps commute with this, `Run.after_echoed` that whole runs do.
* `Run.sink_keeps_its_level` is the result for sinks that log at one level, and
  `Run.errors_are_logged_as_warnings` the one level that such a sink does not keep.
-/

namespace Relay

variable {T : Traffic} {η : Type}

/-! ## (1) Echoes -/

/-- Whether a record is what a sink has written about an event. -/
def Log.Record.isEvent : Log.Record → Bool
  | .event _ _ => true
  | _ => false

/-- Whether an entry is an event, or what a sink has written about one. -/
def Entry.concernsEvents : Entry T → Bool
  | .emitted _ => true
  | .logged record => record.isEvent
  | _ => false

/-- **What becomes of an entry**, latest first, if the given sink is the one that writes about
events. -/
def Entry.echo (sink : EventSink) : Entry T → List (Entry T)
  | .emitted event => ((sink.records event).map .logged).reverse ++ [.emitted event]
  | entry => if entry.concernsEvents then [] else [entry]

/-- Entries that concern no events stay. -/
theorem Entry.echo_eq_self (sink : EventSink) {entry : Entry T}
    (plain : entry.concernsEvents = false) : entry.echo sink = [entry] := by
  cases entry with
  | emitted event => cases plain
  | logged record => exact if_neg (by simp [plain])
  | _ => rfl

namespace Journal

/-- **The journal, latest first, in which the given sink has written** about events. -/
def echoed (sink : EventSink) (past : List (Entry T)) : List (Entry T) :=
  past.flatMap (Entry.echo sink)

/-- A journal that has gone on. -/
@[simp] theorem echoed_append (sink : EventSink) (later past : List (Entry T)) :
    echoed sink (later ++ past) = echoed sink later ++ echoed sink past := List.flatMap_append

/-- One more entry that concerns no events. -/
theorem echoed_cons (sink : EventSink) {entry : Entry T} (plain : entry.concernsEvents = false)
    (past : List (Entry T)) : echoed sink (entry :: past) = entry :: echoed sink past := by
  rw [echoed, List.flatMap_cons, Entry.echo_eq_self sink plain]
  rfl

/-- Entries that concern no events stay. -/
theorem echoed_eq_self (sink : EventSink) {past : List (Entry T)}
    (plain : ∀ entry ∈ past, entry.concernsEvents = false) : echoed sink past = past := by
  induction past with
  | nil => rfl
  | cons entry past ih =>
    rw [echoed_cons sink (plain entry List.mem_cons_self),
      ih fun other member => plain other (List.mem_cons_of_mem _ member)]

/-- With a silent sink only the records of events go. -/
theorem echoed_of_isSilent {sink : EventSink} (silent : sink.IsSilent) (past : List (Entry T)) :
    echoed sink past = past.filter fun entry => !(entry.record?.any Log.Record.isEvent) := by
  induction past with
  | nil => rfl
  | cons entry past ih =>
    rw [echoed, List.flatMap_cons]
    show entry.echo sink ++ echoed sink past = _
    rw [ih]
    cases entry with
    | emitted event => simp [Entry.echo, silent event, Entry.record?]
    | logged record =>
      cases isEvent : record.isEvent <;>
        simp [Entry.echo, Entry.concernsEvents, Entry.record?, isEvent]
    | _ => rfl

end Journal

/-! ## (2) Callbacks -/

namespace Callback

variable {α : Type} (sink : EventSink)

/-- The scene whose journal has the records of the sink. -/
def Scene.echoed (scene : Scene T) : Scene T :=
  { scene with past := Journal.echoed sink scene.past }

/-- One more entry that concerns no events. -/
theorem Scene.log_echoed (scene : Scene T) {entry : Entry T}
    (plain : entry.concernsEvents = false) :
    (scene.echoed sink).log entry = (scene.log entry).echoed sink := by
  rw [Scene.log, Scene.log, Scene.echoed, Scene.echoed, Journal.echoed_cons sink plain]

/-- Requests concern no events. -/
theorem Scene.sendRequest_echoed (scene : Scene T) (request : T.Request) :
    (scene.echoed sink).sendRequest request =
      ((scene.sendRequest request).1, (scene.sendRequest request).2.echoed sink) := by
  have sent : (scene.echoed sink).stage = scene.stage := rfl
  rw [Scene.sendRequest, Scene.sendRequest, sent]
  rcases scene.stage.sendRequest request with ⟨error | _, stage⟩
  · exact congrArg (fun past => (Except.error error, Scene.mk stage scene.memory past))
      (@Journal.echoed_cons T sink (.refused stage.index) rfl scene.past).symm
  · exact congrArg (fun past => (Except.ok (), Scene.mk stage scene.memory past))
      (@Journal.echoed_cons T sink (.sent stage.index (.request request)) rfl scene.past).symm

/-- Replies concern no events, even if they are late. -/
theorem Scene.sendReply_echoed (scene : Scene T) (reply : Reply T.Response) :
    (scene.echoed sink).sendReply reply = (scene.sendReply reply).echoed sink := by
  rw [Scene.sendReply, Scene.sendReply]
  show Scene.mk _ _ _ = Scene.mk _ _ (Journal.echoed sink _)
  rw [Journal.echoed_cons sink rfl]
  cases late : scene.stage.eop with
  | true => simp only [Scene.echoed, late, if_true, Journal.echoed_cons sink
      (show Entry.concernsEvents (.logged (.lateResponse _ _ _)) = false from rfl)]
  | false => simp only [Scene.echoed, late, Bool.false_eq_true, if_false]

/-- **Callbacks have nothing to do with events**: a poll goes the same way whatever the sink has
written before. -/
theorem poll_echoed (callback : Callback T α) (scene : Scene T) :
    callback.poll (scene.echoed sink) =
      ((callback.poll scene).1, (callback.poll scene).2.echoed sink) := by
  -- No instruction of a callback reads the journal, and none of their entries concerns events.
  induction callback generalizing scene with
  | done _ => rfl
  | fail _ => rfl
  | pause _ => exact Prod.ext rfl (scene.log_echoed sink rfl)
  | look _ ih => exact ih _ scene
  | keep data _ ih => exact ih { scene with stage := { scene.stage with data } }
  | sendRequest request _ ih =>
    simp only [poll, Scene.sendRequest_echoed]
    exact ih _ _
  | sendReply reply _ ih =>
    rw [poll, Scene.sendReply_echoed]
    exact ih _
  | note entry _ ih =>
    have noted := scene.log_echoed sink
      (show (Entry.noted scene.stage.index entry).concernsEvents = false from rfl)
    rw [poll]
    exact (congrArg (poll _) noted).trans (ih _)
  | consult _ ih => exact ih _ scene
  | remember memory _ ih => exact ih { scene with memory }

end Callback

/-! ## (3) Parts of a step -/

namespace Run

variable {job : Job T η} (sink : EventSink)

/-- **The run in whose journal the given sink has written** about events. -/
def echoed (run : Run T η) : Run T η := { run with past := Journal.echoed sink run.past }

/-- One more entry that concerns no events. -/
theorem log_echoed (run : Run T η) {entry : Entry T} (plain : entry.concernsEvents = false) :
    (run.echoed sink).log entry = (run.log entry).echoed sink := by
  rw [log, log, echoed, echoed, Journal.echoed_cons sink plain]

/-- One more record of the run's own. -/
theorem record_echoed (run : Run T η) {record : Log.Record} (plain : record.isEvent = false) :
    (run.echoed sink).record record = (run.record record).echoed sink :=
  log_echoed sink run plain

/-- Changes of state are records of the run's own. -/
theorem become_echoed (run : Run T η) (next : RunState) :
    (run.echoed sink).become next = (run.become next).echoed sink :=
  congrArg (fun changed : Run T η => { changed with state := next })
    (@record_echoed T η sink run (.transition run.state next) rfl)

/-- **An event** is followed by what the sink writes about it. -/
theorem emit_echoed (silent : job.sink.IsSilent) (run : Run T η) (event : Event) :
    (run.echoed sink).emit (job.onSink sink) event = (run.emit job event).echoed sink := by
  unfold emit
  cases wanted : job.config.emitEvents with
  | false =>
    have unwanted : ¬ (job.onSink sink).config.emitEvents = true := by simp [Job.onSink, wanted]
    rw [if_neg unwanted, if_neg Bool.false_ne_true]
  | true =>
    have wantedThere : (job.onSink sink).config.emitEvents = true := wanted
    -- The silent sink writes nothing here, so its journal ends with the event itself.
    rw [if_pos wantedThere, if_pos rfl, silent event]
    obtain ⟨reports, written⟩ :=
      ((run.echoed sink).log (.emitted event)).foldl_record (sink.records event)
    have past := congrArg Run.past written
    rw [past_foldl_record] at past
    show (sink.records event).foldl record ((run.echoed sink).log (.emitted event)) = _
    rw [written, reporting, ← show _ = reports.entries ++ _ from past]
    show { run with past := _ } = { run with past := _ }
    simp [echoed, log, Journal.echoed, Entry.echo]

section

variable (silent : job.sink.IsSilent)

include silent

/-- The start of a run. -/
theorem announce_echoed (run : Run T η) :
    (run.echoed sink).announce (job.onSink sink) = (run.announce job).echoed sink := by
  have told : (run.echoed sink).emit (job.onSink sink) (startedEvent (job.onSink sink)) =
      (run.emit job (startedEvent job)).echoed sink :=
    emit_echoed sink silent run (startedEvent job)
  rw [announce, told, announce]
  exact @record_echoed T η sink _ (.runOpened _ _ _) rfl

/-- Success. -/
theorem succeed_echoed (run : Run T η) :
    (run.echoed sink).succeed (job.onSink sink) = (run.succeed job).echoed sink := by
  let ending := (run.become .terminated).record (.completed job.runId job.pipeline.name run.steps
    run.responsesDelivered job.durationMs)
  let summary := run.summary job
  have recorded : ((run.echoed sink).become .terminated).record (.completed job.runId
      job.pipeline.name run.steps run.responsesDelivered job.durationMs) = ending.echoed sink := by
    rw [become_echoed]
    exact @record_echoed T η sink _ (.completed _ _ _ _ _) rfl
  have told := emit_echoed sink silent ending ⟨Event.completedType, some summary.payload⟩
  rw [← recorded] at told
  exact congrArg (fun ended : Run T η => { ended with outcome := some (.ok summary) }) told

/-- Failure. -/
theorem fail_echoed (run : Run T η) (error : RunError) :
    (run.echoed sink).fail (job.onSink sink) error = (run.fail job error).echoed sink := by
  let dropped := { run.become .failed with flight := none }
  let ending := dropped.record (.failed job.runId job.pipeline.name run.steps error)
  have isDropped : ({ (run.echoed sink).become .failed with flight := none } : Run T η) =
      dropped.echoed sink :=
    congrArg (fun changed : Run T η => { changed with flight := none })
      (become_echoed sink run .failed)
  have recorded : ({ (run.echoed sink).become .failed with flight := none } : Run T η).record
      (.failed job.runId job.pipeline.name run.steps error) = ending.echoed sink := by
    rw [isDropped]
    exact @record_echoed T η sink dropped (.failed _ _ _ _) rfl
  have told := emit_echoed sink silent ending (failedEvent job ending error)
  rw [← recorded] at told
  exact congrArg (fun ended : Run T η => { ended with outcome := some (.error error) }) told

/-- The choice of the next message. -/
theorem choose_echoed (run : Run T η) (next : Option Slot) :
    (run.echoed sink).choose (job.onSink sink) next = (run.choose job next).echoed sink := by
  have sameEop : (run.echoed sink).eopReached = run.eopReached := rfl
  -- Whether the pipe is at its end, and what may be chosen, is not told by the journal.
  cases eop : run.eopReached with
  | true =>
    rw [choose_of_eop (sameEop.trans eop), choose_of_eop eop]
    exact succeed_echoed sink silent run
  | false =>
    cases next with
    | none =>
      rw [choose_none (sameEop.trans eop), choose_none eop]
      exact fail_echoed sink silent run _
    | some slot =>
      have sameLimit :
          (run.echoed sink).limitReached (job.onSink sink) = run.limitReached job := rfl
      cases limit : run.limitReached job with
      | some bound =>
        rw [choose_of_limitReached (sameEop.trans eop) (sameLimit.trans limit),
          choose_of_limitReached eop limit]
        exact fail_echoed sink silent run _
      | none =>
        rw [choose_some (sameEop.trans eop) (sameLimit.trans limit), choose_some eop limit]
        exact become_echoed sink { run with current := some slot } .delivering

end

/-- The way of one message. -/
theorem routeOne_echoed (run : Run T η) (stage : Nat) (message : Outgoing T) :
    (run.echoed sink).routeOne job stage message =
      ((run.routeOne job stage message).1, (run.routeOne job stage message).2.echoed sink) := by
  cases message with
  | request request => rfl
  | response reply =>
    by_cases notFirst : 0 < stage
    · simp only [routeOne, notFirst, if_true]
      rfl
    · cases reply with
      | eop =>
        have recorded := @record_echoed T η sink run (.eopReached run.steps) rfl
        simp only [routeOne, notFirst, if_false]
        exact congrArg (fun next : Run T η =>
          (Except.ok (), { next with eopReached := true })) recorded
      | item item =>
        have sameReceived : (run.echoed sink).received = run.received := rfl
        rcases handled : job.handler.handle run.received item with ⟨received, result⟩
        have offered := @log_echoed T η sink run (.offered item result) rfl
        simp only [routeOne, notFirst, if_false, sameReceived, handled, offered]
        cases result <;> rfl

/-- The ways of several messages. -/
theorem routeAll_echoed (run : Run T η) (stage : Nat) (sent : List (Outgoing T)) :
    (run.echoed sink).routeAll job stage sent =
      ((run.routeAll job stage sent).1, (run.routeAll job stage sent).2.echoed sink) := by
  induction sent generalizing run with
  | nil => rfl
  | cons message rest ih =>
    rw [routeAll, routeAll, routeOne_echoed]
    rcases run.routeOne job stage message with ⟨_ | _, next⟩
    · rfl
    · exact ih next

/-- Verdicts of the caller's handler concern no events. -/
theorem afterPoll_echoed (run : Run T η) (index : Nat) (scene : Callback.Scene T) :
    (run.echoed sink).afterPoll (job.onSink sink) index (scene.echoed sink) =
      (run.afterPoll job index scene).echoed sink := by
  have verdicts (list : List (T.Response × Except Failure Unit)) :
      Journal.echoed sink (list.map (Entry.ofVerdict (T := T))).reverse =
        (list.map Entry.ofVerdict).reverse := by
    refine Journal.echoed_eq_self sink fun entry member => ?_
    obtain ⟨verdict, -, rfl⟩ := List.mem_map.mp (List.mem_reverse.mp member)
    rfl
  simp only [afterPoll, echoed, Journal.echoed_append, verdicts]
  rfl

/-- The start of a callback for a message that is there. -/
theorem opened_echoed (run : Run T η) (slot : Slot) (processor : Processor T)
    (message : Message T) (rest : Stage T) :
    (run.echoed sink).opened slot processor message rest =
      (run.opened slot processor message rest).echoed sink := by
  have plain : (Entry.logged (T := T)
      (dispatchRecord slot.stage processor.name message)).concernsEvents = false := by
    cases message <;> rfl
  have past : Journal.echoed sink (.called (rest.callFor slot.stage message) ::
      .logged (dispatchRecord slot.stage processor.name message) :: run.past) =
        .called (rest.callFor slot.stage message) ::
          .logged (dispatchRecord slot.stage processor.name message) ::
            Journal.echoed sink run.past := by
    rw [Journal.echoed_cons sink rfl, Journal.echoed_cons sink plain]
  exact congrArg (fun past => { run.opened slot processor message rest with past }) past.symm

section

variable (silent : job.sink.IsSilent)

include silent

/-- Routing. -/
theorem route_echoed (run : Run T η) (stage : Nat) :
    (run.echoed sink).route (job.onSink sink) stage = (run.route job stage).echoed sink := by
  have cleared : (run.echoed sink).modifyStage stage (·.clearOutbox) =
      (run.modifyStage stage (·.clearOutbox)).echoed sink := rfl
  have sameStages : (run.echoed sink).stages = run.stages := rfl
  rcases routed : (run.modifyStage stage (·.clearOutbox)).routeAll job stage
    ((run.stages[stage]?.map (·.outbox)).getD []) with ⟨error | _, next⟩
  · simp only [route, cleared, sameStages, routeAll_onSink, routeAll_echoed, routed]
    exact fail_echoed sink silent next error
  · simp only [route, cleared, sameStages, routeAll_onSink, routeAll_echoed, routed]
    exact become_echoed sink next .running

/-- The end of a callback. -/
theorem settle_echoed (run : Run T η) {flight : Flight T} (result : Except Failure Unit)
    {stage : Stage T} (found : run.stages[flight.slot.stage]? = some stage) :
    (run.echoed sink).settle (job.onSink sink) flight result =
      (run.settle job flight result).echoed sink := by
  have foundThere : (run.echoed sink).stages[flight.slot.stage]? = some stage := found
  have isSettled : (run.echoed sink).settled flight result =
      (run.settled flight result).echoed sink :=
    congrArg (fun next : Run T η => { next with flight := none, steps := next.steps + 1 })
      (@log_echoed T η sink run (.returned flight.slot.stage result) rfl)
  cases violation : stage.violation with
  | true =>
    rw [settle_of_violation found violation, settle_of_violation foundThere violation, isSettled]
    exact fail_echoed sink silent
      ((run.settled flight result).modifyStage flight.slot.stage (·.clearViolation)) _
  | false =>
    cases result with
    | error failure =>
      rw [settle_of_error found violation, settle_of_error foundThere violation, isSettled]
      exact fail_echoed sink silent _ _
    | ok =>
      rw [settle_of_ok found violation, settle_of_ok foundThere violation, isSettled]
      exact route_echoed sink silent _ _

/-- A poll of the callback in flight. -/
theorem pollFlight_echoed (run : Run T η) (flight : Flight T) :
    (run.echoed sink).pollFlight (job.onSink sink) flight =
      (run.pollFlight job flight).echoed sink := by
  cases found : run.stages[flight.slot.stage]? with
  | none =>
    have foundThere : (run.echoed sink).stages[flight.slot.stage]? = none := found
    simp only [pollFlight, found, foundThere]
    exact become_echoed sink { run with flight := none } .running
  | some stage =>
    have foundThere : (run.echoed sink).stages[flight.slot.stage]? = some stage := found
    rcases polled : flight.callback.poll ⟨stage, run.memory, run.past⟩ with ⟨status, scene⟩
    have polledThere : flight.callback.poll ⟨stage, (run.echoed sink).memory,
        (run.echoed sink).past⟩ = (status, scene.echoed sink) := by
      have alike := flight.callback.poll_echoed sink ⟨stage, run.memory, run.past⟩
      rwa [polled] at alike
    have after : (run.echoed sink).afterPoll (job.onSink sink) flight.slot.stage
        (scene.echoed sink) = (run.afterPoll job flight.slot.stage scene).echoed sink :=
      afterPoll_echoed sink run flight.slot.stage scene
    have sameVerdict : ((job.onSink sink).handler.offer (run.echoed sink).received
        (scene.echoed sink).stage.callerQueue).2.2 =
          (job.handler.offer run.received scene.stage.callerQueue).2.2 := rfl
    -- The verdict on what was sent to the caller comes first, then how the callback has ended.
    cases verdict : (job.handler.offer run.received scene.stage.callerQueue).2.2 with
    | some failure =>
      rw [pollFlight_of_refused found polled verdict,
        pollFlight_of_refused foundThere polledThere (sameVerdict.trans verdict), after]
      exact fail_echoed sink silent _ _
    | none =>
      cases status with
      | waiting rest =>
        rw [pollFlight_of_waiting found polled verdict,
          pollFlight_of_waiting foundThere polledThere (sameVerdict.trans verdict), after]
        rfl
      | finished result =>
        rw [pollFlight_of_finished found polled verdict,
          pollFlight_of_finished foundThere polledThere (sameVerdict.trans verdict), after]
        exact settle_echoed sink silent _ result (getElem?_afterPoll job scene found)

/-- The start of a callback, also where there is none to be started. -/
theorem start_echoed (run : Run T η) (slot : Slot) :
    (run.echoed sink).start (job.onSink sink) slot = (run.start job slot).echoed sink := by
  cases found : run.stages[slot.stage]? with
  | none =>
    have foundThere : (run.echoed sink).stages[slot.stage]? = none := found
    simp only [start, found, foundThere]
    exact become_echoed sink { run with current := none, ready := run.ready.clear slot } .running
  | some stage =>
    have foundThere : (run.echoed sink).stages[slot.stage]? = some stage := found
    have sameProcessors : (job.onSink sink).pipeline = job.pipeline := rfl
    cases hasProcessor : job.pipeline.processor? slot.stage with
    | none =>
      simp only [start, found, foundThere, sameProcessors, hasProcessor]
      exact become_echoed sink { run with current := none, ready := run.ready.clear slot } .running
    | some processor =>
      cases popped : stage.pop? slot.kind with
      | none =>
        simp only [start, found, foundThere, sameProcessors, hasProcessor, popped]
        exact route_echoed sink silent
          { run with current := none, ready := run.ready.clear slot } slot.stage
      | some taken =>
        obtain ⟨message, rest⟩ := taken
        have hasProcessorThere :
            (job.onSink sink).pipeline.processor? slot.stage = some processor := hasProcessor
        rw [start_eq found hasProcessor popped,
          start_eq foundThere hasProcessorThere popped]
        exact opened_echoed sink run slot processor message rest

/-- **A step**, with the sink and with a silent one. -/
theorem step_echoed (run : Run T η) :
    (run.echoed sink).step (job.onSink sink) = (run.step job).echoed sink := by
  have awake : (run.echoed sink).awake = run.awake.echoed sink := rfl
  have sameState : (run.echoed sink).state = run.state := rfl
  have sameFlight : (run.echoed sink).flight = run.flight := rfl
  have sameCurrent : (run.echoed sink).current = run.current := rfl
  cases state : run.state with
  | seeded =>
    rw [step_of_seeded state, step_of_seeded (sameState.trans state), awake,
      announce_echoed sink silent]
    exact become_echoed sink _ .running
  | running =>
    rw [step_of_running state, step_of_running (sameState.trans state), awake]
    exact choose_echoed sink silent run.awake _
  | delivering =>
    cases isFlight : run.flight with
    | some flight =>
      rw [step_of_inFlight state isFlight,
        step_of_inFlight (sameState.trans state) (sameFlight.trans isFlight), awake]
      exact pollFlight_echoed sink silent run.awake flight
    | none =>
      cases current : run.current with
      | some slot =>
        rw [step_of_chosen state isFlight current,
          step_of_chosen (sameState.trans state) (sameFlight.trans isFlight)
            (sameCurrent.trans current), awake]
        exact start_echoed sink silent run.awake slot
      | none =>
        have lost (job : Job T η) {run : Run T η} (state : run.state = .delivering)
            (idle : run.flight = none) (none : run.current = none) :
            run.step job = run.awake.become .running := by rw [step_eq, state, idle, none]
        rw [lost job state isFlight current,
          lost (job.onSink sink) (sameState.trans state) (sameFlight.trans isFlight)
            (sameCurrent.trans current), awake]
        exact become_echoed sink run.awake .running
  | terminated | failed =>
    have isTerminal : run.state.isTerminal = true := by simp [state, RunState.isTerminal]
    have isTerminalThere : (run.echoed sink).state.isTerminal = true := isTerminal
    rw [step_of_isTerminal isTerminal, step_of_isTerminal isTerminalThere]
    rfl

/-- **A whole run**, with the sink and with a silent one. -/
theorem after_echoed (received : η) (memory : T.Memory) (n : Nat) :
    (seed (job.onSink sink) received memory).after (job.onSink sink) n =
      ((seed job received memory).after job n).echoed sink := by
  induction n with
  | zero => rfl
  | succ n ih => rw [after, after, ih, step_echoed sink silent]

/-! ## (4) Finished runs -/

/-- **A silent sink leaves no records of events**: the run is its own echo. -/
theorem isEvent_of_mem_records (received : η) (memory : T.Memory) (n : Nat) :
    ∀ record ∈ Journal.records ((seed job received memory).after job n).journal,
      record.isEvent = false := by
  have itself := congrArg Run.past (@after_echoed T η job job.sink silent received memory n)
  have kept := itself.trans (Journal.echoed_of_isSilent silent _)
  intro record member
  obtain ⟨entry, isThere, written⟩ := List.mem_filterMap.mp member
  have isKept := List.filter_eq_self.mp kept.symm entry (List.mem_reverse.mp isThere)
  simpa [written] using isKept

/-- **The log of a finished run** is the one with a silent sink, between what the sink writes about
the start and what it writes about the end. -/
theorem records_echoed (wanted : job.config.emitEvents = true) (received : η) (memory : T.Memory)
    (n : Nat) {result : Except RunError RunSummary}
    (finished : ((seed job received memory).after job n).outcome = some result) :
    let run := (seed job received memory).after job n
    Journal.records (run.echoed sink).journal = sink.records (startedEvent job) ++
      Journal.records run.journal ++ sink.records (endedEvent job run result) := by
  intro run
  have reached : Reached job run := (Reached.seed received memory).after n
  obtain ⟨middle, journal, noEvents⟩ := reached.exists_middle wanted finished
  rw [silent, List.map_nil] at journal
  -- Between the two events nothing concerns events.
  have plain : ∀ entry ∈ middle.reverse, entry.concernsEvents = false := by
    intro entry member
    have inMiddle := List.mem_reverse.mp member
    cases entry with
    | emitted event => cases List.filterMap_eq_nil_iff.mp noEvents _ inMiddle
    | logged record =>
      refine isEvent_of_mem_records silent received memory n record ?_
      refine List.mem_filterMap.mpr ⟨.logged record, ?_, rfl⟩
      rw [show ((seed job received memory).after job n).journal = _ from journal]
      simp [inMiddle]
    | _ => rfl
  have past : run.past = .emitted (endedEvent job run result) :: middle.reverse ++
      [.emitted (startedEvent job)] := by
    rw [← List.reverse_reverse run.past]
    exact (congrArg List.reverse journal).trans (by simp)
  have echoes : (run.echoed sink).journal = .emitted (startedEvent job) ::
      (sink.records (startedEvent job)).map .logged ++ middle ++
        .emitted (endedEvent job run result) ::
          (sink.records (endedEvent job run result)).map .logged := by
    have kept := Journal.echoed_eq_self sink plain
    rw [Run.journal, echoed, past, Journal.echoed_append, ← List.singleton_append,
      Journal.echoed_append, kept]
    simp [Journal.echoed, Entry.echo]
  have written (records : List Log.Record) :
      Journal.records (records.map (Entry.logged (T := T))) = records := by
    rw [Journal.records, List.filterMap_map]
    exact List.filterMap_some
  have eventless (event : Event) (later : List (Entry T)) :
      Journal.records (.emitted event :: later) = Journal.records later := rfl
  have own : Journal.records run.journal = Journal.records middle := by
    rw [journal, List.cons_append, eventless, Journal.records_append, eventless]
    exact List.append_nil _
  rw [echoes, own, Journal.records_append, List.cons_append, eventless, Journal.records_append,
    eventless, written, written]

end

/-! ## (5) Sinks that log at one level -/

/-- **A record that tells of an event** at a level, and names the type of the event. -/
structure Tells (record : Log.Record) (level : Log.Level) (type : String) : Prop where
  isEvent : record.isEvent = true
  level : record.level = level
  wording : record.message = "Event: " ++ type
  eventType : record.fields.lookup "event_type" = some (.text type)

/-- What a logging sink writes about an event tells of it. -/
theorem tells_event (level : Log.Level) (event : Event) :
    Tells (.event level event) level event.type := ⟨rfl, rfl, rfl, rfl⟩

/-- A single record in a log that is cut off. -/
theorem atLevel_event (threshold level : Log.Level) (event : Event) :
    Log.atLevel threshold [.event level event] =
      if level.isEnabled threshold then [.event level event] else [] := by
  cases enabled : level.isEnabled threshold <;> simp [Log.atLevel, Log.Record.level, enabled]

/-- **A logging sink keeps its level over whole runs**, unless it is set to errors, of which it
makes warnings. If events are wanted, the log of a finished run, wherever it is cut off, is the log
with a sink that drops all events; in front of it stands the record of the start and behind it that
of the outcome, if their level is not cut off. In the log with the other sink there is no record of
any event. -/
theorem sink_keeps_its_level (job : Job T η) (wanted : job.config.emitEvents = true)
    (level threshold : Log.Level) (received : η) (memory : T.Memory) (n : Nat) :
    let loud := job.onSink (.logging level)
    let quiet := job.onSink .discard
    let log := Log.atLevel threshold
      (Journal.records ((seed loud received memory).after loud n).journal)
    let others := Log.atLevel threshold
      (Journal.records ((seed quiet received memory).after quiet n).journal)
    let kept := if level = .error then .warn else level
    ∀ result, ((seed loud received memory).after loud n).outcome = some result →
      ((seed quiet received memory).after quiet n).outcome = some result ∧
      (∀ record ∈ others, record.isEvent = false) ∧
      ∃ first last, Tells first kept "pipeline.started" ∧
        Tells last kept
          (match result with
          | .ok _ => "pipeline.completed"
          | .error _ => "pipeline.failed") ∧
        log = if kept.isEnabled threshold then first :: others ++ [last] else others := by
  intro loud quiet log others kept result finished
  have silent : quiet.sink.IsSilent := fun _ => rfl
  have echo : (seed loud received memory).after loud n =
      ((seed quiet received memory).after quiet n).echoed (.logging level) :=
    after_echoed (.logging level) silent received memory n
  have sameEnd : ((seed quiet received memory).after quiet n).outcome = some result := by
    rw [echo] at finished
    exact finished
  let start := startedEvent quiet
  let ending := endedEvent quiet ((seed quiet received memory).after quiet n) result
  refine ⟨sameEnd, fun record member => ?_, .event kept start, .event kept ending,
    tells_event kept start, ?_, ?_⟩
  · exact isEvent_of_mem_records silent received memory n record (Log.mem_atLevel.mp member).1
  · cases result <;> exact tells_event kept ending
  · have records := records_echoed (.logging level) silent wanted received memory n sameEnd
    dsimp only at records
    rw [← echo] at records
    have cut (first second : List Log.Record) : Log.atLevel threshold (first ++ second) =
        Log.atLevel threshold first ++ Log.atLevel threshold second := List.filter_append _ _
    have told (event : Event) : Log.atLevel threshold ((EventSink.logging level).records event) =
        if kept.isEnabled threshold then [.event kept event] else [] :=
      atLevel_event threshold kept event
    show Log.atLevel threshold _ = _
    rw [records, cut, cut, told, told]
    split
    · rfl
    · exact List.append_nil _

/-- A logging sink at the level of information frames the log of a talkative run. -/
theorem talkative_events_logged :
    talkative.config.emitEvents = true ∧
      let loud := talkative.onSink (.logging .info)
      let quiet := talkative.onSink .discard
      ∃ result, ((seed loud [] ()).after loud 5).outcome = some result ∧
        ∃ first last, Tells first .info "pipeline.started" ∧
          Tells last .info "pipeline.completed" ∧
          Log.atLevel .info (Journal.records ((seed loud [] ()).after loud 5).journal) =
            first :: Log.atLevel .info
              (Journal.records ((seed quiet [] ()).after quiet 5).journal) ++ [last] := by
  refine ⟨rfl, ?_⟩
  intro loud quiet
  obtain ⟨summary, finished⟩ :
      ∃ summary, ((seed loud [] ()).after loud 5).outcome = some (.ok summary) := ⟨_, rfl⟩
  obtain ⟨-, -, first, last, start, ending, log⟩ :=
    sink_keeps_its_level talkative rfl .info .info [] () 5 _ finished
  exact ⟨_, finished, first, last, start, ending, log⟩

/-- **A sink that is set to errors does not keep its level**: a log of errors only, which would hold
its records, is empty. -/
theorem errors_are_logged_as_warnings :
    let loud := talkative.onSink (.logging .error)
    let log := Journal.records ((seed loud [] ()).after loud 5).journal
    (∃ summary, ((seed loud [] ()).after loud 5).outcome = some (.ok summary)) ∧
      Log.Level.error.isEnabled .error = true ∧ Log.atLevel .error log = [] ∧
      (log.filter Log.Record.isEvent).map Log.Record.level = [.warn, .warn] :=
  ⟨⟨_, rfl⟩, rfl, rfl, rfl⟩

end Run

end Relay
