import Relay.Proofs.Run.Chronicle
import Relay.Proofs.Sending.Late

/-!
# What a log shows

A log that is cut off at debug level shows the lines of the records at that level or above. Here it
is followed through the parts of a step, for a sink of events that writes nothing into the log
itself. Changes of state are below that level, so that only six things are left that show: the start
of a run and its two ends, the call of a processor, late replies, and the end of the pipe where it
reaches the caller.

* `Run.debugLog` is the log of a run, and `Run.debugLog_fail` and its neighbours say what the parts
  of a step add to it.
-/

namespace Relay

variable {T : Traffic} {η : Type}

/-! ## (1) Lines -/

namespace Log

/-- **A line of a log**: its level, its wording, and its fields. -/
structure Line where
  level : Level
  wording : String
  fields : List (String × Json)

/-- The line of a record. -/
def Record.line (record : Record) : Line := ⟨record.level, record.message, record.fields⟩

/-- **The lines of records** in a log that is cut off at debug level. -/
def debugLines (records : List Record) : List Line := (atLevel .debug records).map Record.line

@[simp] theorem debugLines_nil : debugLines [] = [] := rfl

/-- Lines part by part. -/
@[simp] theorem debugLines_append (first second : List Record) :
    debugLines (first ++ second) = debugLines first ++ debugLines second := by
  simp [debugLines, atLevel]

/-- Records that show one by one show together. -/
theorem debugLines_map {α : Type} {record : α → Record} {line : α → Line} {items : List α}
    (shows : ∀ a, debugLines [record a] = [line a]) :
    debugLines (items.map record) = items.map line := by
  induction items with
  | nil => rfl
  | cons a items ih =>
    rw [List.map_cons, List.map_cons, ← List.singleton_append, debugLines_append, shows, ih]
    rfl

/-- A record that shows is shown as often as it is written. -/
theorem debugLines_replicate {record : Record} {line : Line} (shows : debugLines [record] = [line])
    (n : Nat) : debugLines (List.replicate n record) = List.replicate n line := by
  induction n with
  | zero => rfl
  | succ n ih =>
    rw [List.replicate_succ, List.replicate_succ, ← List.singleton_append, debugLines_append, shows,
      ih]
    rfl

end Log

/-- **A sink that writes nothing** into the log, whatever else it does with events. -/
def EventSink.IsSilent (sink : EventSink) : Prop := ∀ event, sink.records event = []

/-- The records of a journal that has gone on. -/
theorem Journal.records_append (first second : List (Entry T)) :
    records (first ++ second) = records first ++ records second := List.filterMap_append

/-- Verdicts of the caller's handler leave no record. -/
theorem Journal.records_verdicts (verdicts : List (T.Response × Except Failure Unit)) :
    records (verdicts.map (Entry.ofVerdict (T := T))) = [] := by
  refine List.filterMap_eq_nil_iff.mpr fun entry member => ?_
  obtain ⟨verdict, -, rfl⟩ := List.mem_map.mp member
  rfl

namespace Run

variable {job : Job T η} {run : Run T η}

/-- **The log of a run** at debug level. -/
def debugLog (run : Run T η) : List Log.Line := Log.debugLines (Journal.records run.journal)

/-! ## (2) Parts of a step -/

/-- The log of a run whose journal has grown. -/
theorem debugLog_of_past {next : Run T η} (later : List (Entry T))
    (past : next.past = later ++ run.past) :
    next.debugLog = run.debugLog ++ Log.debugLines (Journal.records later.reverse) := by
  rw [debugLog, journal, past, List.reverse_append, Journal.records_append, Log.debugLines_append]
  rfl

/-- One more record. -/
theorem debugLog_record (run : Run T η) (record : Log.Record) :
    (run.record record).debugLog = run.debugLog ++ Log.debugLines [record] :=
  debugLog_of_past [.logged record] rfl

/-- One more entry that is no record. -/
theorem debugLog_log (run : Run T η) (entry : Entry T) (noRecord : entry.record? = none) :
    (run.log entry).debugLog = run.debugLog := by
  have grown : (run.log entry).past = [entry] ++ run.past := rfl
  rw [debugLog_of_past [entry] grown]
  simp [Journal.records, noRecord]

/-- Changes of state are too fine for this log. -/
theorem debugLog_become (run : Run T η) (next : RunState) :
    (run.become next).debugLog = run.debugLog := by
  have finer : Log.debugLines [.transition run.state next] = [] := rfl
  show (run.record (.transition run.state next)).debugLog = _
  rw [debugLog_record, finer, List.append_nil]

/-- **Events do not show**, if the sink writes nothing. -/
theorem debugLog_emit (silent : job.sink.IsSilent) (run : Run T η) (event : Event) :
    (run.emit job event).debugLog = run.debugLog := by
  rw [emit, silent event]
  split
  · exact debugLog_log run (.emitted event) rfl
  · rfl

/-- **The start of a run** shows. -/
theorem debugLog_announce (silent : job.sink.IsSilent) (run : Run T η) :
    (run.announce job).debugLog = run.debugLog ++
      Log.debugLines [.runOpened job.runId job.pipeline.name job.pipeline.size] := by
  rw [announce, debugLog_record, debugLog_emit silent]

/-- **Success** shows. -/
theorem debugLog_succeed (silent : job.sink.IsSilent) (run : Run T η) :
    (run.succeed job).debugLog = run.debugLog ++
      Log.debugLines [.completed job.runId job.pipeline.name run.steps run.responsesDelivered
        job.durationMs] := by
  let ending := (run.become .terminated).record (.completed job.runId job.pipeline.name run.steps
    run.responsesDelivered job.durationMs)
  show (ending.emit job (run.summary job).completedEvent).debugLog = _
  rw [debugLog_emit silent, debugLog_record, debugLog_become]

/-- **Failure** shows. -/
theorem debugLog_fail (silent : job.sink.IsSilent) (run : Run T η) (error : RunError) :
    (run.fail job error).debugLog = run.debugLog ++
      Log.debugLines [.failed job.runId job.pipeline.name run.steps error] := by
  let dropped := { run.become .failed with flight := none }
  let ending := dropped.record (.failed job.runId job.pipeline.name run.steps error)
  have same : dropped.debugLog = run.debugLog := debugLog_become run .failed
  show (ending.emit job (failedEvent job ending error)).debugLog = _
  rw [debugLog_emit silent, debugLog_record, same]

/-- **The start of a callback** shows as the dispatch of its message. -/
theorem debugLog_opened (run : Run T η) (slot : Slot) (processor : Processor T)
    (message : Message T) (rest : Stage T) :
    (run.opened slot processor message rest).debugLog = run.debugLog ++
      Log.debugLines [dispatchRecord slot.stage processor.name message] :=
  debugLog_of_past [.called (rest.callFor slot.stage message),
    .logged (dispatchRecord slot.stage processor.name message)] rfl

/-- Its end does not. -/
theorem debugLog_settled (run : Run T η) (flight : Flight T) (result : Except Failure Unit) :
    (run.settled flight result).debugLog = run.debugLog :=
  debugLog_log run (.returned flight.slot.stage result) rfl

/-- **A poll** shows in the warnings about late replies. -/
theorem debugLog_afterPoll (job : Job T η) (index : Nat) {stage : Stage T}
    {scene : Callback.Scene T} {acts : List (Entry T)}
    (warned : Callback.Scene.Warned ⟨stage, run.memory, run.past⟩ scene acts) :
    (run.afterPoll job index scene).debugLog =
      run.debugLog ++ Log.debugLines (stage.warnings (Journal.sent acts)) := by
  -- The verdicts of the handler come after the poll and leave no record.
  have grown : (run.afterPoll job index scene).past =
      ((job.handler.offer run.received scene.stage.callerQueue).2.1.map Entry.ofVerdict).reverse ++
        acts ++ run.past := by
    rw [List.append_assoc, ← warned.past]
    rfl
  rw [debugLog_of_past _ grown, List.reverse_append, List.reverse_reverse, Journal.records_append,
    Journal.records_verdicts, List.append_nil, warned.records]

/-! ## (3) Routing -/

/-- **The way of one message** shows only if it is the end of the pipe and reaches the caller. -/
theorem debugLog_routeOne (job : Job T η) (run : Run T η) (stage : Nat) (message : Outgoing T) :
    (run.routeOne job stage message).2.steps = run.steps ∧
      (run.routeOne job stage message).2.debugLog = run.debugLog ++
        if stage = 0 ∧ message.isEop = true then Log.debugLines [.eopReached run.steps]
        else [] := by
  cases message with
  | request request =>
    rw [if_neg (by simp [Outgoing.isEop]), List.append_nil]
    exact ⟨rfl, rfl⟩
  | response reply =>
    by_cases first : stage = 0
    · subst first
      cases reply with
      | eop =>
        rw [if_pos ⟨rfl, rfl⟩]
        exact ⟨rfl, debugLog_record run (.eopReached run.steps)⟩
      | item item =>
        -- The caller's handler is asked here, and may refuse the item.
        rw [if_neg (by simp [Outgoing.isEop]), List.append_nil]
        rcases handled : job.handler.handle run.received item with ⟨received, result⟩
        have offered := debugLog_log run (.offered item result) rfl
        simp only [routeOne, handled, Nat.lt_irrefl, if_false]
        cases result <;> exact ⟨rfl, offered⟩
    · have notFirst : 0 < stage := by omega
      rw [if_neg (fun isFirst => first isFirst.1), List.append_nil]
      simp only [routeOne, notFirst, if_true]
      exact ⟨rfl, rfl⟩

/-- **The ways of several messages** show in one line for each end of the pipe that reaches the
caller. -/
theorem debugLog_routeAll (job : Job T η) (run : Run T η) (stage : Nat) (sent : List (Outgoing T))
    (goesOn : (run.routeAll job stage sent).1 = .ok ()) :
    (run.routeAll job stage sent).2.debugLog = run.debugLog ++
      if stage = 0 then
        Log.debugLines (List.replicate (sent.countP Outgoing.isEop) (.eopReached run.steps))
      else [] := by
  induction sent generalizing run with
  | nil => simp [routeAll]
  | cons message rest ih =>
    obtain ⟨steps, one⟩ := debugLog_routeOne job run stage message
    rw [routeAll] at goesOn ⊢
    rcases routed : run.routeOne job stage message with ⟨_ | _, next⟩
    · rw [routed] at goesOn
      cases goesOn
    · rw [routed] at steps one goesOn
      have others := ih next goesOn
      dsimp only at steps one others ⊢
      rw [others, one, steps, List.append_assoc]
      by_cases first : stage = 0
      · cases isEop : message.isEop with
        | false => simp [first, isEop]
        | true =>
          rw [if_pos first, if_pos ⟨first, rfl⟩, if_pos first, List.countP_cons, if_pos isEop,
            List.replicate_succ, ← Log.debugLines_append]
          rfl
      · simp [first]

/-- **Routing what a stage has sent** shows likewise, if the run goes on. -/
theorem debugLog_route {stage : Stage T} {index : Nat}
    (found : run.stages[index]? = some stage)
    (goesOn : (run.route job index).state = .running) :
    (run.route job index).debugLog = run.debugLog ++
      if index = 0 then
        Log.debugLines (List.replicate (stage.outbox.countP Outgoing.isEop) (.eopReached run.steps))
      else [] := by
  have shown := debugLog_routeAll job (run.modifyStage index (·.clearOutbox)) index stage.outbox
  rcases result : (run.modifyStage index (·.clearOutbox)).routeAll job index stage.outbox with
    ⟨error | _, next⟩
  · simp only [route, found, Option.map_some, Option.getD_some, result] at goesOn
    cases (state_fail job next error).symm.trans goesOn
  · rw [result] at shown
    simp only [route, found, Option.map_some, Option.getD_some, result]
    rw [debugLog_become, shown rfl]
    rfl

end Run

end Relay
