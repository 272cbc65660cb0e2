import Mathlib.Data.List.Basic
import Relay.Proofs.Acting

/-!
# Effects of the parts of a step

What announcing, ending, routing and offering do to a run, in closed form: as the run with some of
its fields replaced. Reports are only named where nothing hangs on what they say.

* `Run.fail_eq`, `Run.succeed_eq`, `Run.announce_eq` for the beginning and the end;
* `Run.routeAll_eq` for the way of a whole outbox: every request goes to the next stage and every
  reply to the one before, and the first stage only tells the caller that the pipe has ended.
-/

namespace Relay

variable {T : Traffic} {η : Type}

namespace Run

/-! ## (1) Reporting -/

/-- The run with reports in its journal. -/
def reporting (run : Run T η) (reports : Reports T) : Run T η :=
  { run with past := reports.entries ++ run.past }

@[simp] theorem verdicts_reporting (run : Run T η) (reports : Reports T) :
    (run.reporting reports).verdicts = run.verdicts := Journal.verdicts_reports reports run.past

/-- Reports on top of reports. -/
theorem reporting_reporting (run : Run T η) (early late : Reports T) :
    (run.reporting early).reporting late = run.reporting (late.append early) := by
  simp [reporting, Reports.append]

/-- A record is a report. -/
theorem record_eq (run : Run T η) (record : Log.Record) :
    run.record record = run.reporting (.ofRecord record) := rfl

/-- A change of state is reported, and changes nothing else. -/
theorem become_eq (run : Run T η) (next : RunState) :
    run.become next =
      { run.reporting (.ofRecord (.transition run.state next)) with state := next } := rfl

/-- Records one after the other are reports. -/
theorem foldl_record (run : Run T η) (records : List Log.Record) :
    ∃ reports, records.foldl record run = run.reporting reports := by
  induction records generalizing run with
  | nil => exact ⟨.none, rfl⟩
  | cons first rest ih =>
    obtain ⟨reports, others⟩ := ih (run.record first)
    refine ⟨reports.append (.ofRecord first), ?_⟩
    rw [List.foldl_cons, others, record_eq, reporting_reporting]

/-- **Events are only reported.** -/
theorem emit_eq (job : Job T η) (run : Run T η) (event : Event) :
    ∃ reports, run.emit job event = run.reporting reports := by
  unfold emit
  split
  · obtain ⟨reports, records⟩ := (run.log (.emitted event)).foldl_record (job.sink.records event)
    have emitted : run.log (.emitted event) =
        run.reporting ⟨[.emitted event], by simp [Entry.isReport]⟩ := rfl
    exact ⟨_, by rw [records, emitted, reporting_reporting]⟩
  · exact ⟨.none, rfl⟩

/-- The start of a run is only reported. -/
theorem announce_eq (job : Job T η) (run : Run T η) :
    ∃ reports, run.announce job = run.reporting reports := by
  obtain ⟨reports, emitted⟩ := run.emit_eq job (startedEvent job)
  exact ⟨_, by rw [announce, emitted, record_eq, reporting_reporting]⟩

/-- **Success** sets the state and the outcome. -/
theorem succeed_eq (job : Job T η) (run : Run T η) :
    ∃ reports, run.succeed job = { run.reporting reports with
      state := .terminated
      outcome := some (.ok (run.summary job)) } := by
  let ending := run.become .terminated
  let summary := ending.summary job
  let told := ending.record (.completed summary.runId summary.pipeline summary.steps
    summary.responsesDelivered summary.durationMs)
  obtain ⟨reports, emitted⟩ := told.emit_eq job ⟨Event.completedType, some summary.payload⟩
  have same : run.succeed job =
      { told.reporting reports with outcome := some (.ok summary) } := by rw [← emitted]; rfl
  refine ⟨reports.append ((Reports.ofRecord (.completed summary.runId summary.pipeline
    summary.steps summary.responsesDelivered summary.durationMs)).append
    (.ofRecord (.transition run.state .terminated))), ?_⟩
  rw [same, ← reporting_reporting, ← reporting_reporting]
  rfl

/-- **Failure** sets the state and the outcome, and drops the callback in flight. -/
theorem fail_eq (job : Job T η) (run : Run T η) (error : RunError) :
    ∃ reports, run.fail job error = { run.reporting reports with
      state := .failed
      flight := none
      outcome := some (.error error) } := by
  let ending := { run.become .failed with flight := none }
  let told := ending.record (.failed job.runId job.pipeline.name ending.steps error)
  obtain ⟨reports, emitted⟩ := told.emit_eq job (failedEvent job told error)
  have same : run.fail job error =
      { told.reporting reports with outcome := some (.error error) } := by rw [← emitted]; rfl
  refine ⟨reports.append ((Reports.ofRecord (.failed job.runId job.pipeline.name ending.steps
    error)).append (.ofRecord (.transition run.state .failed))), ?_⟩
  rw [same, ← reporting_reporting, ← reporting_reporting]
  rfl

/-! ## (2) Polling -/

/-- **The end of a poll**: what the scene has become is taken over, and the items for the caller are
offered to the handler. -/
def afterPoll (job : Job T η) (run : Run T η) (index : Nat) (scene : Callback.Scene T) :
    Run T η :=
  let offered := job.handler.offer run.received scene.stage.callerQueue
  { run with
    stages := run.stages.set index scene.stage.clearCaller
    memory := scene.memory
    received := offered.1
    past := (offered.2.1.map Entry.ofVerdict).reverse ++ scene.past
    responsesDelivered := run.responsesDelivered + offered.2.1.countP (·.2.isOk) }

section Polling

variable {job : Job T η} {run : Run T η} {flight : Flight T} {stage : Stage T}
  {status : Callback.Status T Unit} {scene : Callback.Scene T}

/-- A poll in which the handler refuses an item ends the run. -/
theorem pollFlight_of_refused {failure : Failure}
    (found : run.stages[flight.slot.stage]? = some stage)
    (polled : flight.callback.poll ⟨stage, run.memory, run.past⟩ = (status, scene))
    (refused : (job.handler.offer run.received scene.stage.callerQueue).2.2 = some failure) :
    run.pollFlight job flight =
      (run.afterPoll job flight.slot.stage scene).fail job (.handler failure) := by
  rcases offer : job.handler.offer run.received scene.stage.callerQueue with
    ⟨received, offers, verdict⟩
  obtain rfl : verdict = some failure := by rw [← refused, offer]
  simp only [pollFlight, found, polled, deliver, offer, afterPoll]
  rfl

/-- A poll at whose end the callback pauses leaves it in flight. -/
theorem pollFlight_of_waiting {rest : Callback T Unit}
    (found : run.stages[flight.slot.stage]? = some stage)
    (polled : flight.callback.poll ⟨stage, run.memory, run.past⟩ = (.waiting rest, scene))
    (accepted : (job.handler.offer run.received scene.stage.callerQueue).2.2 = none) :
    run.pollFlight job flight =
      { run.afterPoll job flight.slot.stage scene with
        flight := some { flight with callback := rest }
        isWaiting := true } := by
  rcases offer : job.handler.offer run.received scene.stage.callerQueue with
    ⟨received, offers, verdict⟩
  obtain rfl : verdict = none := by rw [← accepted, offer]
  simp only [pollFlight, found, polled, deliver, offer, afterPoll]
  rfl

/-- A poll with which the callback ends settles it. -/
theorem pollFlight_of_finished {result : Except Failure Unit}
    (found : run.stages[flight.slot.stage]? = some stage)
    (polled : flight.callback.poll ⟨stage, run.memory, run.past⟩ = (.finished result, scene))
    (accepted : (job.handler.offer run.received scene.stage.callerQueue).2.2 = none) :
    run.pollFlight job flight =
      (run.afterPoll job flight.slot.stage scene).settle job flight result := by
  rcases offer : job.handler.offer run.received scene.stage.callerQueue with
    ⟨received, offers, verdict⟩
  obtain rfl : verdict = none := by rw [← accepted, offer]
  simp only [pollFlight, found, polled, deliver, offer, afterPoll]
  rfl

end Polling

end Run

/-! ## (3) Routing -/

/-- **The queue that a message of a stage goes to**; what the first stage replies goes to none. -/
def Outgoing.destination? (stage : Nat) : Outgoing T → Option Slot
  | .request _ => some ⟨stage + 1, .request⟩
  | .response _ => if 0 < stage then some ⟨stage - 1, .response⟩ else none

/-- **What arrives in a queue** of the messages that a stage has sent. -/
def Outgoing.arrivals (stage : Nat) (slot : Slot) (sent : List (Outgoing T)) : List (Message T) :=
  sent.filterMap fun message =>
    if message.destination? stage = some slot then some message.toMessage else none

/-- **The stage at a place after another one's messages have been routed.** -/
def Stage.receive (stage : Stage T) (place sender : Nat) (sent : List (Outgoing T)) : Stage T :=
  { stage with
    requests := stage.requests ++
      if place = sender + 1 then sent.filterMap Outgoing.request? else []
    responses := stage.responses ++
      if place + 1 = sender then sent.filterMap Outgoing.reply? else [] }

namespace Stage

/-- Messages after messages. -/
theorem receive_receive (stage : Stage T) (place sender : Nat) (early late : List (Outgoing T)) :
    (stage.receive place sender early).receive place sender late =
      stage.receive place sender (early ++ late) := by
  unfold receive
  split_ifs <;> simp

/-- **Exactly what arrives in a queue joins it**, at its end and in order. -/
theorem pending_receive (stage : Stage T) (place sender : Nat) (sent : List (Outgoing T))
    (kind : MessageKind) :
    (stage.receive place sender sent).pending kind =
      stage.pending kind ++ Outgoing.arrivals sender ⟨place, kind⟩ sent := by
  cases kind with
  | request =>
    have arrive : Outgoing.arrivals sender ⟨place, .request⟩ sent =
        (if place = sender + 1 then sent.filterMap Outgoing.request? else []).map .request := by
      split
      next isNext =>
        rw [List.map_filterMap, Outgoing.arrivals]
        refine List.filterMap_congr fun message _ => ?_
        cases message <;>
          simp [Outgoing.request?, Outgoing.destination?, Outgoing.toMessage, isNext]
      next isElsewhere =>
        refine List.filterMap_eq_nil_iff.mpr fun message _ => ?_
        cases message <;> simp [Outgoing.destination?, Ne.symm isElsewhere]
    rw [arrive]
    simp [pending, receive]
  | response =>
    have arrive : Outgoing.arrivals sender ⟨place, .response⟩ sent =
        (if place + 1 = sender then sent.filterMap Outgoing.reply? else []).map .response := by
      split
      next isPrevious =>
        rw [List.map_filterMap, Outgoing.arrivals]
        refine List.filterMap_congr fun message _ => ?_
        cases message <;>
          simp [Outgoing.reply?, Outgoing.destination?, Outgoing.toMessage, ← isPrevious]
      next isElsewhere =>
        refine List.filterMap_eq_nil_iff.mpr fun message _ => ?_
        cases message with
        | request => simp [Outgoing.destination?]
        | response => simp [Outgoing.destination?]; omega
    rw [arrive]
    simp [pending, receive]

end Stage

namespace ReadyQueue

/-- The queue with several slots marked. -/
def markAll (queue : ReadyQueue) (slots : List Slot) : ReadyQueue := slots.foldl mark queue

/-- Marking several slots adds exactly these. -/
@[simp] theorem mem_markAll {queue : ReadyQueue} {slots : List Slot} {slot : Slot} :
    slot ∈ queue.markAll slots ↔ slot ∈ queue ∨ slot ∈ slots := by
  induction slots generalizing queue with
  | nil => simp [markAll]
  | cons first rest ih =>
    rw [markAll, List.foldl_cons, ← markAll, ih, mem_mark, List.mem_cons, or_assoc]
    tauto

end ReadyQueue

namespace Run

/-- **A run after the messages of a stage have been routed.** -/
def routed (run : Run T η) (sender : Nat) (sent : List (Outgoing T)) : Run T η :=
  { run with
    stages := run.stages.mapIdx fun place stage => stage.receive place sender sent
    ready := run.ready.markAll (sent.filterMap (·.destination? sender))
    eopReached := run.eopReached || (sender == 0 && sent.any Outgoing.isEop) }

/-- Routing on and on. -/
theorem routed_routed (run : Run T η) (sender : Nat) (early late : List (Outgoing T)) :
    (run.routed sender early).routed sender late = run.routed sender (early ++ late) := by
  have stages : ((run.stages.mapIdx fun place stage => stage.receive place sender early).mapIdx
      fun place stage => stage.receive place sender late) =
      run.stages.mapIdx fun place stage => stage.receive place sender (early ++ late) := by
    rw [List.mapIdx_mapIdx]
    exact congrArg (List.mapIdx · run.stages)
      (funext fun place => funext fun stage => stage.receive_receive place sender early late)
  simp [routed, stages, ReadyQueue.markAll, Bool.or_assoc, Bool.and_or_distrib_left]

/-- A request changes the stage after the sender. -/
theorem modify_request (stages : List (Stage T)) (sender : Nat) (request : T.Request) :
    stages.modify (sender + 1) (·.enqueueRequest request) =
      stages.mapIdx fun place stage => stage.receive place sender [.request request] := by
  refine List.ext_getElem? fun place => ?_
  rw [List.getElem?_modify, List.getElem?_mapIdx]
  cases stages[place]? with
  | none => rfl
  | some stage =>
    by_cases next : sender + 1 = place
    · simp [Stage.receive, Stage.enqueueRequest, List.filterMap_cons, Outgoing.request?,
        Outgoing.reply?, ← next]
    · simp [Stage.receive, List.filterMap_cons, Outgoing.reply?, next, Ne.symm next]

/-- A reply changes the stage before the sender. -/
theorem modify_reply (stages : List (Stage T)) {sender : Nat} (notFirst : 0 < sender)
    (reply : Reply T.Response) :
    stages.modify (sender - 1) (·.enqueueResponse reply) =
      stages.mapIdx fun place stage => stage.receive place sender [.response reply] := by
  refine List.ext_getElem? fun place => ?_
  rw [List.getElem?_modify, List.getElem?_mapIdx]
  cases stages[place]? with
  | none => rfl
  | some stage =>
    by_cases previous : place + 1 = sender
    · simp [Stage.receive, Stage.enqueueResponse, List.filterMap_cons, Outgoing.request?,
        Outgoing.reply?, ← previous]
    · have elsewhere : sender - 1 ≠ place := by omega
      simp [Stage.receive, List.filterMap_cons, Outgoing.request?, previous, elsewhere]

/-- Messages without a destination join no queue. -/
theorem mapIdx_receive_of_nowhere (stages : List (Stage T)) {sender : Nat}
    {sent : List (Outgoing T)}
    (nowhere : ∀ message ∈ sent, message.destination? sender = none) :
    (stages.mapIdx fun place stage => stage.receive place sender sent) = stages := by
  refine List.ext_getElem? fun place => ?_
  have noRequests : sent.filterMap Outgoing.request? = [] := by
    refine List.filterMap_eq_nil_iff.mpr fun message member => ?_
    have none := nowhere message member
    cases message <;> simp_all [Outgoing.request?, Outgoing.destination?]
  have noReplies : place + 1 = sender → sent.filterMap Outgoing.reply? = [] := by
    intro previous
    refine List.filterMap_eq_nil_iff.mpr fun message member => ?_
    have none := nowhere message member
    cases message <;> simp_all [Outgoing.reply?, Outgoing.destination?]
  rw [List.getElem?_mapIdx]
  cases stages[place]? with
  | none => rfl
  | some stage =>
    by_cases previous : place + 1 = sender
    · simp [Stage.receive, noRequests, noReplies previous]
    · simp [Stage.receive, noRequests, previous]

/-- **The way of one message.** No item is routed at the first stage. -/
theorem routeOne_eq (job : Job T η) (run : Run T η) (sender : Nat) (message : Outgoing T)
    (noItem : sender = 0 → message.item? = none) :
    ∃ reports, run.routeOne job sender message =
      (.ok (), (run.routed sender [message]).reporting reports) := by
  cases message with
  | request request =>
    refine ⟨.none, ?_⟩
    simp [routeOne, modifyStage, modify_request, routed, reporting, Reports.none,
      ReadyQueue.markAll, Outgoing.destination?, Outgoing.isEop]
  | response reply =>
    by_cases notFirst : 0 < sender
    · refine ⟨.none, ?_⟩
      simp [routeOne, modifyStage, modify_reply run.stages notFirst, routed, reporting,
        Reports.none, ReadyQueue.markAll, Outgoing.destination?, notFirst, Nat.ne_of_gt notFirst]
    · obtain rfl : sender = 0 := by omega
      cases reply with
      | item payload => simp [Outgoing.item?, Reply.item?] at noItem
      | eop =>
        -- The end of the pipe goes to no queue; it is only taken note of.
        refine ⟨.ofRecord (.eopReached run.steps), ?_⟩
        have nowhere : (run.stages.mapIdx fun place stage =>
            stage.receive place 0 [.response .eop]) = run.stages :=
          mapIdx_receive_of_nowhere run.stages (by simp [Outgoing.destination?])
        simp [routeOne, record_eq, routed, reporting, nowhere, ReadyQueue.markAll,
          Outgoing.destination?, Outgoing.isEop, Reports.ofRecord]

/-- **The ways of all messages that a stage has sent.** Unless an item is routed at the first stage,
nothing can go wrong. -/
theorem routeAll_eq (job : Job T η) (run : Run T η) (sender : Nat) (sent : List (Outgoing T))
    (noItem : sender = 0 → ∀ message ∈ sent, message.item? = none) :
    ∃ reports, run.routeAll job sender sent =
      (.ok (), (run.routed sender sent).reporting reports) := by
  induction sent generalizing run with
  | nil =>
    have nowhere : (run.stages.mapIdx fun place stage => stage.receive place sender []) =
        run.stages := mapIdx_receive_of_nowhere run.stages (by simp)
    exact ⟨.none, by simp [routeAll, routed, reporting, Reports.none, nowhere, ReadyQueue.markAll]⟩
  | cons message rest ih =>
    obtain ⟨early, one⟩ := run.routeOne_eq job sender message fun first =>
      noItem first message List.mem_cons_self
    obtain ⟨late, others⟩ := ih ((run.routed sender [message]).reporting early)
      fun first other member => noItem first other (List.mem_cons_of_mem _ member)
    refine ⟨late.append early, ?_⟩
    have swap : ((run.routed sender [message]).reporting early).routed sender rest =
        ((run.routed sender [message]).routed sender rest).reporting early := rfl
    rw [routeAll, one]
    show routeAll job sender _ rest = _
    rw [others, swap, reporting_reporting, routed_routed]
    rfl

/-- **Routing what a stage has sent** takes its outbox away and lets the run choose again. -/
theorem route_eq (job : Job T η) (run : Run T η) {sender : Nat} {stage : Stage T}
    (found : run.stages[sender]? = some stage)
    (noItem : sender = 0 → ∀ message ∈ stage.outbox, message.item? = none) :
    ∃ reports, run.route job sender =
      { ((run.modifyStage sender (·.clearOutbox)).routed sender stage.outbox).reporting
          reports with state := .running } := by
  obtain ⟨reports, all⟩ :=
    (run.modifyStage sender (·.clearOutbox)).routeAll_eq job sender stage.outbox noItem
  refine ⟨(Reports.ofRecord (.transition run.state .running)).append reports, ?_⟩
  rw [route, found]
  simp only [Option.map_some, Option.getD_some, all]
  rw [become_eq, reporting_reporting]
  rfl

end Run

end Relay
