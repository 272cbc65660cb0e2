import Relay.Proofs.Run.Soundness

/-!
# What a step does not look at

A step writes to the journal and never reads it, and it knows of the caller's handler only what the
handler says about the items of one poll. So a run may be recast: earlier entries may stand in its
journal, another handler may stand in for its own, and each step still does the same to it.

* `Callback.poll_onto` says so for polls, and `Run.step_recast` for steps.
-/

namespace Relay

variable {T : Traffic} {η θ : Type}

/-! ## (1) Polls -/

/-- **The stage with items that have been on their way to the caller before.** -/
def Stage.owing (stage : Stage T) (items : List T.Response) : Stage T :=
  { stage with caller := stage.caller.map (items ++ ·) }

namespace Stage

/-- No items make no difference. -/
@[simp] theorem owing_nil (stage : Stage T) : stage.owing [] = stage := by
  have same : stage.caller.map ([] ++ ·) = stage.caller := congrFun Option.map_id stage.caller
  rw [owing, same]

/-- A reply joins the items that have been on their way before. -/
theorem sendReply_owing (stage : Stage T) (items : List T.Response) (reply : Reply T.Response) :
    (stage.owing items).sendReply reply = (stage.sendReply reply).owing items := by
  cases caller : stage.caller with
  | none => cases reply <;> simp [owing, sendReply, caller]
  | some queue =>
    cases reply with
    | eop => simp [owing, sendReply, caller]
    | item payload =>
      by_cases first : stage.index = 0 <;> simp [owing, sendReply, caller, first]

/-- Whether a request can be sent does not hang on the items for the caller. -/
theorem sendRequest_owing (stage : Stage T) (items : List T.Response) (request : T.Request) :
    (stage.owing items).sendRequest request =
      ((stage.sendRequest request).1, (stage.sendRequest request).2.owing items) := by
  have sameLast : (stage.owing items).isLast = stage.isLast := rfl
  rw [sendRequest, sendRequest, sameLast]
  split <;> rfl

end Stage

namespace Callback

variable {α : Type}

/-- **A scene put onto another past**: with items that have been on their way to the caller before,
and with earlier entries in the journal. -/
def Scene.onto (scene : Scene T) (items : List T.Response) (past : List (Entry T)) : Scene T :=
  { scene with stage := scene.stage.owing items, past := scene.past ++ past }

/-- Sending a request takes no notice of what has been before. -/
theorem Scene.sendRequest_onto (scene : Scene T) (items : List T.Response) (past : List (Entry T))
    (request : T.Request) :
    (scene.onto items past).sendRequest request =
      ((scene.sendRequest request).1, (scene.sendRequest request).2.onto items past) := by
  have sent := scene.stage.sendRequest_owing items request
  have index : ((scene.stage.sendRequest request).2.owing items).index =
      (scene.stage.sendRequest request).2.index := rfl
  simp only [Scene.sendRequest, Scene.onto, sent, index]
  cases (scene.stage.sendRequest request).1 <;> rfl

/-- Nor does sending a reply. -/
theorem Scene.sendReply_onto (scene : Scene T) (items : List T.Response) (past : List (Entry T))
    (reply : Reply T.Response) :
    (scene.onto items past).sendReply reply = (scene.sendReply reply).onto items past := by
  have late : (scene.stage.owing items).eop = scene.stage.eop := rfl
  simp only [Scene.sendReply, Scene.onto, Stage.sendReply_owing, late]
  cases scene.stage.eop <;> rfl

/-- **A poll takes no notice of what has been before**: neither of the journal nor of the items that
are on their way to the caller. -/
theorem poll_onto (callback : Callback T α) (scene : Scene T) (items : List T.Response)
    (past : List (Entry T)) :
    callback.poll (scene.onto items past) =
      ((callback.poll scene).1, (callback.poll scene).2.onto items past) := by
  -- Along the callback; what it is shown of its stage has neither journal nor items.
  induction callback generalizing scene with
  | done _ => rfl
  | fail _ => rfl
  | pause _ => rfl
  | look _ ih => exact ih scene.stage.view scene
  | keep data _ ih => exact ih { scene with stage := { scene.stage with data } }
  | sendRequest request _ ih =>
    simp only [poll, Scene.sendRequest_onto]
    exact ih (scene.sendRequest request).1 (scene.sendRequest request).2
  | sendReply reply _ ih =>
    simp only [poll, Scene.sendReply_onto]
    exact ih (scene.sendReply reply)
  | note entry _ ih => exact ih (scene.log (.noted scene.stage.index entry))
  | consult _ ih => exact ih scene.memory scene
  | remember memory _ ih => exact ih { scene with memory }

end Callback

/-! ## (2) Recasting a run -/

/-- **Jobs that report alike**: they may differ in their processors, the request and the handler,
but not in what the reports of a run tell. -/
structure Job.Agrees (job : Job T η) (other : Job T θ) : Prop where
  name : other.pipeline.name = job.pipeline.name
  size : other.pipeline.size = job.pipeline.size
  metadata : other.pipeline.metadata = job.pipeline.metadata
  config : other.config = job.config
  sink : other.sink = job.sink
  runId : other.runId = job.runId
  startedAt : other.startedAt = job.startedAt
  durationMs : other.durationMs = job.durationMs

/-- **The job with another handler.** -/
def Job.withHandler (job : Job T η) (handler : Handler T.Response θ) : Job T θ :=
  { job with handler }

/-- A job reports alike, whoever gets the items. -/
theorem Job.agrees_withHandler (job : Job T η) (handler : Handler T.Response θ) :
    job.Agrees (job.withHandler handler) := ⟨rfl, rfl, rfl, rfl, rfl, rfl, rfl, rfl⟩

namespace Run

/-- **A run recast**: with something else remembered by the handler, and with earlier entries in the
journal. -/
def recast (run : Run T η) (received : θ) (past : List (Entry T)) : Run T θ where
  state := run.state
  stages := run.stages
  ready := run.ready
  current := run.current
  flight := run.flight
  isWaiting := run.isWaiting
  eopReached := run.eopReached
  steps := run.steps
  requestsProcessed := run.requestsProcessed
  responsesProcessed := run.responsesProcessed
  responsesDelivered := run.responsesDelivered
  received
  memory := run.memory
  past := run.past ++ past
  outcome := run.outcome

/-- The run put onto another past. -/
def onto (run : Run T η) (past : List (Entry T)) : Run T η := run.recast run.received past

/-- The run without its past. -/
def anew (run : Run T η) : Run T η := { run with past := [] }

/-- Nothing is recast. -/
@[simp] theorem recast_self (run : Run T η) : run.recast run.received [] = run := by
  show { run with past := run.past ++ [] } = run
  rw [List.append_nil]

section Recasting

variable {job : Job T η} {other : Job T θ}

/-! ## (3) Reports, beginnings and ends -/

/-- Records are made the same way. -/
theorem foldl_record_recast (run : Run T η) (received : θ) (past : List (Entry T))
    (records : List Log.Record) :
    records.foldl record (run.recast received past) =
      (records.foldl record run).recast received past := by
  induction records generalizing run with
  | nil => rfl
  | cons first rest ih => exact ih (run.record first)

/-- Events are emitted the same way. -/
theorem emit_recast (agrees : job.Agrees other) (run : Run T η) (received : θ)
    (past : List (Entry T)) (event : Event) :
    (run.recast received past).emit other event = (run.emit job event).recast received past := by
  unfold emit
  rw [agrees.config, agrees.sink]
  split
  · exact foldl_record_recast (run.log (.emitted event)) received past (job.sink.records event)
  · rfl

/-- Runs begin the same way. -/
theorem announce_recast (agrees : job.Agrees other) (run : Run T η) (received : θ)
    (past : List (Entry T)) :
    (run.recast received past).announce other = (run.announce job).recast received past := by
  have event : startedEvent other = startedEvent job := by
    simp only [startedEvent, agrees.name, agrees.size, agrees.metadata, agrees.runId]
  rw [announce, event, emit_recast agrees, agrees.name, agrees.size, agrees.runId]
  rfl

/-- The summary tells nothing that is recast. -/
theorem summary_recast (agrees : job.Agrees other) (run : Run T η) (received : θ)
    (past : List (Entry T)) : (run.recast received past).summary other = run.summary job := by
  simp only [summary, agrees.name, agrees.runId, agrees.startedAt, agrees.durationMs]
  rfl

/-- Runs succeed the same way. -/
theorem succeed_recast (agrees : job.Agrees other) (run : Run T η) (received : θ)
    (past : List (Entry T)) :
    (run.recast received past).succeed other = (run.succeed job).recast received past := by
  let ending := run.become .terminated
  let summary := ending.summary job
  let told := ending.record (.completed summary.runId summary.pipeline summary.steps
    summary.responsesDelivered summary.durationMs)
  have emitted := emit_recast agrees told received past ⟨Event.completedType, some summary.payload⟩
  have left : (run.recast received past).succeed other =
      { (told.recast received past).emit other ⟨Event.completedType, some summary.payload⟩ with
        outcome := some (.ok summary) } := by
    have same : ((run.recast received past).become .terminated).summary other = summary :=
      summary_recast agrees ending received past
    simp only [succeed, same]
    rfl
  rw [left, emitted]
  rfl

/-- Runs fail the same way. -/
theorem fail_recast (agrees : job.Agrees other) (run : Run T η) (received : θ)
    (past : List (Entry T)) (error : RunError) :
    (run.recast received past).fail other error = (run.fail job error).recast received past := by
  let ending := { run.become .failed with flight := none }
  let told := ending.record (.failed job.runId job.pipeline.name ending.steps error)
  have event : failedEvent other (told.recast received past) error =
      failedEvent job told error := by
    simp only [failedEvent, agrees.name, agrees.runId]
    rfl
  have emitted := emit_recast agrees told received past (failedEvent job told error)
  rw [← event] at emitted
  have left : (run.recast received past).fail other error =
      { (told.recast received past).emit other
          (failedEvent other (told.recast received past) error) with
        outcome := some (.error error) } := by
    simp only [fail, agrees.name, agrees.runId]
    rfl
  rw [left, emitted, event]
  rfl

/-- Messages are chosen the same way. -/
theorem choose_recast (agrees : job.Agrees other) (run : Run T η) (received : θ)
    (past : List (Entry T)) (next : Option Slot) :
    (run.recast received past).choose other next = (run.choose job next).recast received past := by
  have limits : (run.recast received past).limitReached other = run.limitReached job := by
    rw [limitReached, limitReached, agrees.config]
    rfl
  cases eop : run.eopReached with
  | true =>
    have out : (run.recast received past).eopReached = true := eop
    rw [choose_of_eop eop, choose_of_eop out]
    exact succeed_recast agrees run received past
  | false =>
    have notOut : (run.recast received past).eopReached = false := eop
    cases next with
    | none =>
      rw [choose_none eop, choose_none notOut]
      exact fail_recast agrees run received past _
    | some slot =>
      cases reached : run.limitReached job with
      | none =>
        rw [choose_some eop reached, choose_some notOut (limits.trans reached)]
        rfl
      | some limit =>
        rw [choose_of_limitReached eop reached,
          choose_of_limitReached notOut (limits.trans reached)]
        exact fail_recast agrees run received past _

/-! ## (4) Routing -/

/-- A message takes the same way, unless the handler is asked about it. -/
theorem routeOne_recast (job : Job T η) (other : Job T θ) (run : Run T η) (received : θ)
    (past : List (Entry T)) (sender : Nat) (message : Outgoing T)
    (noItem : sender = 0 → message.item? = none) :
    (run.recast received past).routeOne other sender message =
      ((run.routeOne job sender message).1,
        (run.routeOne job sender message).2.recast received past) := by
  cases message with
  | request request => rfl
  | response reply =>
    by_cases notFirst : 0 < sender
    · simp only [routeOne, notFirst, if_true]
      rfl
    · cases reply with
      | item payload =>
        have first : sender = 0 := by omega
        cases noItem first
      | eop =>
        simp only [routeOne, notFirst, if_false]
        rfl

/-- All messages take the same ways. -/
theorem routeAll_recast (job : Job T η) (other : Job T θ) (run : Run T η) (received : θ)
    (past : List (Entry T)) (sender : Nat) (sent : List (Outgoing T))
    (noItem : sender = 0 → ∀ message ∈ sent, message.item? = none) :
    (run.recast received past).routeAll other sender sent =
      ((run.routeAll job sender sent).1, (run.routeAll job sender sent).2.recast received past) := by
  induction sent generalizing run with
  | nil => rfl
  | cons message rest ih =>
    have one := routeOne_recast job other run received past sender message
      fun first => noItem first message List.mem_cons_self
    have others := fun run => ih run fun first other member =>
      noItem first other (List.mem_cons_of_mem _ member)
    rw [routeAll, routeAll, one]
    rcases run.routeOne job sender message with ⟨_ | _, next⟩
    · rfl
    · exact others next

/-- What a callback has sent is routed the same way. -/
theorem route_recast (agrees : job.Agrees other) (run : Run T η) (received : θ)
    (past : List (Entry T)) {sender : Nat} {stage : Stage T}
    (found : run.stages[sender]? = some stage)
    (noItem : sender = 0 → ∀ message ∈ stage.outbox, message.item? = none) :
    (run.recast received past).route other sender = (run.route job sender).recast received past := by
  have foundRecast : (run.recast received past).stages[sender]? = some stage := found
  have all := routeAll_recast job other (run.modifyStage sender (·.clearOutbox)) received past sender
    stage.outbox noItem
  rw [route, route, found, foundRecast]
  simp only [Option.map_some, Option.getD_some]
  rw [show (run.recast received past).modifyStage sender (·.clearOutbox) =
    (run.modifyStage sender (·.clearOutbox)).recast received past from rfl, all]
  rcases (run.modifyStage sender (·.clearOutbox)).routeAll job sender stage.outbox with ⟨_ | _, next⟩
  · exact fail_recast agrees next received past _
  · rfl

/-! ## (5) Calling -/

/-- Callbacks end the same way. -/
theorem settle_recast (agrees : job.Agrees other) (run : Run T η) (received : θ)
    (past : List (Entry T)) {flight : Flight T} (result : Except Failure Unit) {stage : Stage T}
    (found : run.stages[flight.slot.stage]? = some stage)
    (noItem : flight.slot.stage = 0 → ∀ message ∈ stage.outbox, message.item? = none) :
    (run.recast received past).settle other flight result =
      (run.settle job flight result).recast received past := by
  have foundRecast : (run.recast received past).stages[flight.slot.stage]? = some stage := found
  cases violation : stage.violation with
  | true =>
    rw [settle_of_violation found violation, settle_of_violation foundRecast violation]
    exact fail_recast agrees ((run.settled flight result).modifyStage flight.slot.stage
      (·.clearViolation)) received past _
  | false =>
    cases result with
    | error failure =>
      rw [settle_of_error found violation, settle_of_error foundRecast violation]
      exact fail_recast agrees (run.settled flight (.error failure)) received past _
    | ok =>
      rw [settle_of_ok found violation, settle_of_ok foundRecast violation]
      exact route_recast agrees (run.settled flight (.ok ())) received past found noItem

end Recasting

/-! ## (6) Jobs that differ elsewhere -/

section Congruence

variable {job other : Job T η} (handler : other.handler = job.handler)
  (fails : ∀ (run : Run T η) error, run.fail other error = run.fail job error)

include handler in
/-- On the way of messages only the handler is asked. -/
theorem routeAll_congr (run : Run T η) (sender : Nat) (sent : List (Outgoing T)) :
    run.routeAll other sender sent = run.routeAll job sender sent := by
  induction sent generalizing run with
  | nil => rfl
  | cons message rest ih =>
    have one : run.routeOne other sender message = run.routeOne job sender message := by
      unfold routeOne
      rw [handler]
    rw [routeAll, routeAll, one]
    rcases run.routeOne job sender message with ⟨_ | _, later⟩
    · rfl
    · exact ih later

include handler fails in
/-- **Routing is the same** for jobs with the same handler that fail alike. -/
theorem route_congr (run : Run T η) (sender : Nat) :
    run.route other sender = run.route job sender := by
  simp only [route, routeAll_congr handler, fails]

include handler fails in
/-- So is the end of a callback. -/
theorem settle_congr (run : Run T η) (flight : Flight T) (result : Except Failure Unit) :
    run.settle other flight result = run.settle job flight result := by
  simp only [settle, route_congr handler fails, fails]

include handler fails in
/-- And so is a poll. -/
theorem pollFlight_congr (run : Run T η) (flight : Flight T) :
    run.pollFlight other flight = run.pollFlight job flight := by
  simp only [pollFlight, deliver, handler, settle_congr handler fails, fails]

end Congruence

/-! ## (7) Steps -/

/-- **The items that the next step offers** to the caller's handler: what the callback in flight
sends to the caller in its next poll. -/
def due (run : Run T η) : List T.Response :=
  match run.flight with
  | none => []
  | some flight =>
    (run.stages[flight.slot.stage]?).elim [] fun stage =>
      (flight.callback.poll ⟨stage, run.memory, run.past⟩).2.stage.callerQueue

section Steps

variable {job : Job T η} {run : Run T η} {flight : Flight T} {stage : Stage T}
  {status : Callback.Status T Unit} {scene : Callback.Scene T}

/-- The items that are due in a poll. -/
theorem due_of_polled (polled : run.Polled flight stage status scene) :
    run.due = scene.stage.callerQueue := by
  simp only [due, polled.isFlight, polled.found, Option.elim_some, polled.polled]

/-- Nothing is due while no callback is in flight. -/
theorem due_of_idle (idle : run.flight = none) : run.due = [] := by
  simp only [due, idle]

/-- No item of the first stage is in its outbox after a poll. -/
theorem item?_eq_none_of_polled (sound : Sound job run)
    (polled : run.Polled flight stage status scene) (first : flight.slot.stage = 0) :
    ∀ message ∈ scene.stage.outbox, message.item? = none := by
  intro message member
  obtain ⟨turn, earlier, acts, engaged, acted⟩ := exists_acted sound polled
  exact (wired_afterPoll sound.toWired polled.found acted).item?_eq_none
    (engaged_afterPoll job engaged acted) first member

variable {handler : Handler T.Response θ} {received : θ} {past : List (Entry T)}

/-- A poll is the same on another past. -/
theorem Polled.onto (polled : run.Polled flight stage status scene) (past : List (Entry T)) :
    (run.onto past).Polled flight stage status { scene with past := scene.past ++ past } where
  state := polled.state
  outcome := polled.outcome
  isFlight := polled.isFlight
  current := polled.current
  found := polled.found
  polled := by
    have both := flight.callback.poll_onto ⟨stage, run.memory, run.past⟩ [] past
    rw [polled.polled] at both
    simp only [Callback.Scene.onto, Stage.owing_nil] at both
    exact both

/-- **Handlers that say the same** about the items of a poll are offered them alike. -/
theorem afterPoll_recast (job : Job T η) (run : Run T η) (index : Nat) (scene : Callback.Scene T)
    (past : List (Entry T))
    (agree : (handler.offer received scene.stage.callerQueue).2 =
      (job.handler.offer run.received scene.stage.callerQueue).2) :
    (run.recast received past).afterPoll (job.withHandler handler) index
        { scene with past := scene.past ++ past } =
      (run.afterPoll job index scene).recast
        (handler.offer received scene.stage.callerQueue).1 past := by
  simp only [afterPoll, Job.withHandler, agree, recast, List.append_assoc]

/-- **Callbacks are polled the same way.** -/
theorem pollFlight_recast (polled : run.Polled flight stage status scene)
    (noItem : flight.slot.stage = 0 → ∀ message ∈ scene.stage.outbox, message.item? = none)
    (agree : (handler.offer received scene.stage.callerQueue).2 =
      (job.handler.offer run.received scene.stage.callerQueue).2) :
    (run.recast received past).pollFlight (job.withHandler handler) flight =
      (run.pollFlight job flight).recast
        (handler.offer received scene.stage.callerQueue).1 past := by
  have agrees := job.agrees_withHandler handler
  have after := afterPoll_recast job run flight.slot.stage scene past agree
  have twice := (polled.onto past).polled
  have found : (run.afterPoll job flight.slot.stage scene).stages[flight.slot.stage]? =
      some scene.stage.clearCaller := getElem?_afterPoll job scene polled.found
  have foundRecast : (run.recast received past).stages[flight.slot.stage]? = some stage :=
    polled.found
  cases verdict : (job.handler.offer run.received scene.stage.callerQueue).2.2 with
  | some failure =>
    rw [pollFlight_of_refused polled.found polled.polled verdict,
      pollFlight_of_refused foundRecast twice ((congrArg Prod.snd agree).trans verdict), after]
    exact fail_recast agrees _ _ past _
  | none =>
    have verdictRecast := (congrArg Prod.snd agree).trans verdict
    cases status with
    | waiting rest =>
      rw [pollFlight_of_waiting polled.found polled.polled verdict,
        pollFlight_of_waiting foundRecast twice verdictRecast, after]
      rfl
    | finished result =>
      rw [pollFlight_of_finished polled.found polled.polled verdict,
        pollFlight_of_finished foundRecast twice verdictRecast, after]
      exact settle_recast agrees _ _ past result found noItem

/-- **A step does the same to a run recast**, as long as both handlers say the same about the items
that are due. -/
theorem step_recast {early : List (Entry T)} (sound : Sound job (run.onto early))
    (past : List (Entry T))
    (agree : (handler.offer received run.due).2 = (job.handler.offer run.received run.due).2) :
    (run.recast received past).step (job.withHandler handler) =
      (run.step job).recast (handler.offer received run.due).1 past := by
  have agrees := job.agrees_withHandler handler
  -- While no callback is in flight, the handler is not asked, and remembers what it did.
  have idle : run.flight = none → (handler.offer received run.due).1 = received := fun flight => by
    rw [due_of_idle flight]
    rfl
  have ended : (run.onto early).state.isTerminal = true → run.flight = none →
      (run.recast received past).step (job.withHandler handler) =
        (run.step job).recast (handler.offer received run.due).1 past := by
    intro terminal flight
    have isTerminal : run.state.isTerminal = true := terminal
    have isTerminalRecast : (run.recast received past).state.isTerminal = true := terminal
    rw [idle flight, step_of_isTerminal isTerminal, step_of_isTerminal isTerminalRecast]
    rfl
  cases sound.phase with
  | atRest state _ flight =>
    rw [idle flight]
    rcases state with state | state
    · have seeded : run.state = .seeded := state
      have seededRecast : (run.recast received past).state = .seeded := state
      rw [step_of_seeded seeded, step_of_seeded seededRecast]
      exact congrArg (Run.become · .running) (announce_recast agrees run.awake received past)
    · have running : run.state = .running := state
      have runningRecast : (run.recast received past).state = .running := state
      rw [step_of_running running, step_of_running runningRecast]
      exact choose_recast agrees run.awake received past run.ready.next?
  | chosen slot state _ flight current ready =>
    have delivering : run.state = .delivering := state
    have isIdle : run.flight = none := flight
    have isCurrent : run.current = some slot := current
    have deliveringRecast : (run.recast received past).state = .delivering := state
    have isIdleRecast : (run.recast received past).flight = none := flight
    have isCurrentRecast : (run.recast received past).current = some slot := current
    obtain ⟨stage, processor, message, rest, found, hasProcessor, popped⟩ :=
      sound.exists_popped ready
    have started : run.awake.start job slot = run.awake.opened slot processor message rest :=
      start_eq found hasProcessor popped
    have startedRecast : (run.recast received past).awake.start (job.withHandler handler) slot =
        (run.recast received past).awake.opened slot processor message rest :=
      start_eq found hasProcessor popped
    rw [idle flight, step_of_chosen delivering isIdle isCurrent,
      step_of_chosen deliveringRecast isIdleRecast isCurrentRecast, started, startedRecast]
    rfl
  | inFlight flight state outcome isFlight current =>
    have delivering : run.state = .delivering := state
    have inFlight : run.flight = some flight := isFlight
    have deliveringRecast : (run.recast received past).state = .delivering := state
    have inFlightRecast : (run.recast received past).flight = some flight := isFlight
    obtain ⟨stage, turn, earlier, engaged⟩ := sound.engaged flight isFlight
    rcases isPolled : flight.callback.poll ⟨stage, run.memory, run.past⟩ with ⟨status, scene⟩
    have polled : run.awake.Polled flight stage status scene :=
      ⟨state, outcome, isFlight, current, engaged.found, isPolled⟩
    have due : run.awake.due = scene.stage.callerQueue := due_of_polled polled
    have due : run.due = scene.stage.callerQueue := due
    rw [due] at agree ⊢
    rw [step_of_inFlight delivering inFlight, step_of_inFlight deliveringRecast inFlightRecast]
    have polledEarly : (run.onto early).awake.Polled flight stage status
        { scene with past := scene.past ++ early } := polled.onto early
    have noItem := fun first => item?_eq_none_of_polled sound.awake polledEarly first
    exact pollFlight_recast polled noItem agree
  | succeeded _ state _ flight => exact ended (by rw [state]; rfl) flight
  | failed _ state _ flight => exact ended (by rw [state]; rfl) flight

/-- **A step does the same on any past.** -/
theorem step_onto {run : Run T η} {early : List (Entry T)} (sound : Sound job (run.onto early))
    (past : List (Entry T)) : (run.onto past).step job = (run.step job).onto past := by
  have same : (run.onto past).step job = (run.step job).recast
      (job.handler.offer run.received run.due).1 past := step_recast sound past rfl
  -- On no past at all the step is its own recast, and so the handler remembers the same.
  have own : (run.onto []).step job = (run.step job).recast
      (job.handler.offer run.received run.due).1 [] := step_recast sound [] rfl
  rw [onto, recast_self] at own
  have remembered : (run.step job).received = (job.handler.offer run.received run.due).1 :=
    congrArg Run.received own
  rw [same, onto, remembered]

end Steps

end Run

end Relay
