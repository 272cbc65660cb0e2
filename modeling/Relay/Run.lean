import Relay.Config
import Relay.Handler
import Relay.Pipeline
import Relay.ReadyQueue
import Relay.Run.Attributes
import Relay.Sink

/-!
# Runs

A run takes one request through a pipeline. It goes on in small steps: each chooses a message,
starts a callback, polls it, or routes what it has sent. The message to treat next is always one of
the lowest stage that has any, a request before a response. The run succeeds when the end of the
pipe leaves the first stage, and fails with the first error: no stage has a message, a processor or
the caller's handler fails, the last stage tries to send a request, or the step limit is reached.

Items of the first stage are offered to the handler after every poll of its callback, whatever
becomes of the callback later; everything else that a callback sends is routed only when it has
ended well.
-/

namespace Relay

variable {T : Traffic} {η : Type}

/-! ## (1) Jobs and runs -/

/-- **A job**: a request for a pipeline, and all that a run of it depends on. -/
structure Job (T : Traffic) (η : Type) where
  pipeline : Pipeline T
  request : T.Request
  handler : Handler T.Response η
  config : Config := {}
  sink : EventSink := .discard
  runId : RunId
  startedAt : Time.Instant
  durationMs : Float

/-- **A callback in flight**: whose it is, what it handles, and what it still has to do. -/
structure Flight (T : Traffic) where
  slot : Slot
  processor : String
  callback : Callback T Unit

/-- **A run under way.** Its counters are natural numbers. Kept in words of 64 bits, they are the
same as long as they are below `2 ^ 64`; from then on such words wrap around, or the run stops. -/
structure Run (T : Traffic) (η : Type) where
  state : RunState := .seeded
  stages : List (Stage T)
  /-- The queues that hold messages. -/
  ready : ReadyQueue
  /-- The message chosen to be treated next. -/
  current : Option Slot := none
  flight : Option (Flight T) := none
  /-- Whether the callback in flight has paused in the last step. -/
  isWaiting : Bool := false
  /-- Whether the end of the pipe has reached the caller. -/
  eopReached : Bool := false
  /-- Callbacks that have been run to their end. A word of 64 bits counts the same below `2 ^ 64`. -/
  steps : Nat := 0
  /-- Callbacks that have been started with a request. A word of 64 bits counts the same below
  `2 ^ 64`. -/
  requestsProcessed : Nat := 0
  /-- Callbacks that have been started with a response. A word of 64 bits counts the same below
  `2 ^ 64`. -/
  responsesProcessed : Nat := 0
  /-- Items that the handler has accepted. A word of 64 bits counts the same below `2 ^ 64`. -/
  responsesDelivered : Nat := 0
  /-- What the handler remembers. -/
  received : η
  /-- What the processors remember. -/
  memory : T.Memory
  /-- The journal, latest entry first. -/
  past : List (Entry T) := []
  outcome : Option (Except RunError RunSummary) := none

namespace Run

/-- **The journal of a run**, in order. -/
def journal (run : Run T η) : List (Entry T) := run.past.reverse

/-- Whether a run has come to its end. -/
def isFinished (run : Run T η) : Bool := run.outcome.isSome

/-- The run with one more entry in its journal. -/
def log (run : Run T η) (entry : Entry T) : Run T η := { run with past := entry :: run.past }

/-- The run with a log record in its journal. -/
def record (run : Run T η) (record : Log.Record) : Run T η := run.log (.logged record)

/-- A change of state, which is recorded. -/
def become (run : Run T η) (next : RunState) : Run T η :=
  { run.record (.transition run.state next) with state := next }

/-- An event on its way to the sink, if events are wanted. -/
def emit (job : Job T η) (run : Run T η) (event : Event) : Run T η :=
  if job.config.emitEvents then
    (job.sink.records event).foldl record (run.log (.emitted event))
  else run

/-! ## (2) The beginning and the end -/

/-- The stages of a job, before the request arrives. -/
def freshStages (job : Job T η) : List (Stage T) :=
  job.pipeline.processors.mapIdx fun index processor =>
    { index
      stageCount := job.pipeline.size
      processor := processor.name
      runId := job.runId
      metadata := job.pipeline.metadata }

/-- **A run at its beginning**: the request waits at the first stage, to which the caller is
attached. -/
def seed (job : Job T η) (received : η) (memory : T.Memory) : Run T η where
  stages := (freshStages job).modify 0 fun stage =>
    (stage.enqueueRequest job.request).attachCaller
  ready := ReadyQueue.empty.mark ⟨0, .request⟩
  received
  memory

/-- The event that reports the start of a run. -/
def startedEvent (job : Job T η) : Event where
  type := Event.startedType
  data := some <| RunAttributes.payload
    { pipelineName := some job.pipeline.name
      runId := some job.runId.text
      stageCount := some job.pipeline.size
      mapId := some job.pipeline.metadata.map.id
      serviceId := job.pipeline.metadata.service.map (·.id) }

/-- The start of a run is reported before anything else happens. -/
def announce (job : Job T η) (run : Run T η) : Run T η :=
  (run.emit job (startedEvent job)).record
    (.runOpened job.runId job.pipeline.name job.pipeline.size)

/-- The summary of a run that succeeds now. -/
def summary (job : Job T η) (run : Run T η) : RunSummary where
  runId := job.runId
  pipeline := job.pipeline.name
  stageCount := run.stages.length
  steps := run.steps
  requestsProcessed := run.requestsProcessed
  responsesProcessed := run.responsesProcessed
  responsesDelivered := run.responsesDelivered
  startedAt := job.startedAt
  durationMs := job.durationMs

/-- **Success.** -/
def succeed (job : Job T η) (run : Run T η) : Run T η :=
  let run := run.become .terminated
  let summary := run.summary job
  let run := run.record (.completed summary.runId summary.pipeline summary.steps
    summary.responsesDelivered summary.durationMs)
  { run.emit job ⟨Event.completedType, some summary.payload⟩ with outcome := some (.ok summary) }

/-- The event that reports the failure of a run. -/
def failedEvent (job : Job T η) (run : Run T η) (error : RunError) : Event where
  type := Event.failedType
  data := some <| .object
    [("run_id", .text job.runId.text), ("pipeline", .text job.pipeline.name),
      ("steps", .nat run.steps), ("code", .text error.code),
      ("stage", .option .nat error.stage?), ("error", .text error.message)]

/-- **Failure**, which ends the run whatever still waits. -/
def fail (job : Job T η) (run : Run T η) (error : RunError) : Run T η :=
  let run := { run.become .failed with flight := none }
  let run := run.record (.failed job.runId job.pipeline.name run.steps error)
  { run.emit job (failedEvent job run error) with outcome := some (.error error) }

/-! ## (3) Choosing -/

/-- Whether the step limit forbids a further step. -/
def limitReached (job : Job T η) (run : Run T η) : Option Nat :=
  job.config.maxSteps.bind fun limit =>
    if limit.toNat ≤ run.steps then some limit.toNat else none

/-- **The choice of the next message.** The end of the pipe is looked for first, then a message, and
only then the limit. -/
def choose (job : Job T η) (run : Run T η) (next : Option Slot) : Run T η :=
  -- Messages that still wait when the end of the pipe is out are never handled.
  if run.eopReached then run.succeed job
  else
    match next with
    | none => run.fail job (.starvation run.steps run.stages.length)
    | some slot =>
      match run.limitReached job with
      | some limit => run.fail job (.stepLimit limit)
      | none => { run with current := some slot }.become .delivering

/-! ## (4) Routing -/

/-- The run with one stage changed. -/
def modifyStage (run : Run T η) (index : Nat) (f : Stage T → Stage T) : Run T η :=
  { run with stages := run.stages.modify index f }

/-- **The way of one message** that the callback of a stage has sent. -/
def routeOne (job : Job T η) (stage : Nat) (run : Run T η) :
    Outgoing T → Except RunError Unit × Run T η
  | .request request =>
    (.ok (), { run.modifyStage (stage + 1) (·.enqueueRequest request) with
      ready := run.ready.mark ⟨stage + 1, .request⟩ })
  | .response reply =>
    if 0 < stage then
      (.ok (), { run.modifyStage (stage - 1) (·.enqueueResponse reply) with
        ready := run.ready.mark ⟨stage - 1, .response⟩ })
    else
      match reply with
      | .item item =>
        let (received, result) := job.handler.handle run.received item
        let run := { run.log (.offered item result) with received }
        match result with
        | .error failure => (.error (.handler failure), run)
        | .ok () => (.ok (), { run with responsesDelivered := run.responsesDelivered + 1 })
      | .eop => (.ok (), { run.record (.eopReached run.steps) with eopReached := true })

/-- The ways of several messages, in order, up to the first failure. -/
def routeAll (job : Job T η) (stage : Nat) : Run T η → List (Outgoing T) →
    Except RunError Unit × Run T η
  | run, [] => (.ok (), run)
  | run, message :: rest =>
    match run.routeOne job stage message with
    | (.ok (), run) => routeAll job stage run rest
    | (.error error, run) => (.error error, run)

/-- **Routing what a stage has sent**, after which the run chooses again. -/
def route (job : Job T η) (run : Run T η) (stage : Nat) : Run T η :=
  let outbox := (run.stages[stage]?.map (·.outbox)).getD []
  match (run.modifyStage stage (·.clearOutbox)).routeAll job stage outbox with
  | (.ok (), run) => run.become .running
  | (.error error, run) => run.fail job error

/-! ## (5) Calling -/

/-- The record of a message that is handed to a processor. -/
def dispatchRecord (stage : Nat) (processor : String) : Message T → Log.Record
  | .request _ => .dispatchedRequest stage processor
  | .response reply => .dispatchedResponse stage processor reply.isEop

/-- The run with one more message of a kind counted as treated. -/
def countMessage (run : Run T η) : MessageKind → Run T η
  | .request => { run with requestsProcessed := run.requestsProcessed + 1 }
  | .response => { run with responsesProcessed := run.responsesProcessed + 1 }

/-- **The start of a callback**: the chosen message leaves its queue, which is cleared in the ready
queue if it was the last one. A slot behind which no message waits is cleared as well. -/
def start (job : Job T η) (run : Run T η) (slot : Slot) : Run T η :=
  let run := { run with current := none }
  match run.stages[slot.stage]?, job.pipeline.processor? slot.stage with
  | some stage, some processor =>
    match stage.pop? slot.kind with
    | none => { run with ready := run.ready.clear slot }.route job slot.stage
    | some (message, rest) =>
      -- The processor sees its stage without the message that it handles.
      let ready := if (rest.pending slot.kind).isEmpty then run.ready.clear slot else run.ready
      let run := ({ run with ready }.modifyStage slot.stage fun _ => rest).countMessage slot.kind
      let run := run.record (dispatchRecord slot.stage processor.name message)
      let run := run.log (.called
        { stage := slot.stage
          message
          eop := rest.eop
          pendingRequests := rest.requests.length
          pendingResponses := rest.responses.length })
      { run with flight := some ⟨slot, processor.name, processor.handle message⟩ }
  | _, _ => { run with ready := run.ready.clear slot }.become .running

/-- **Offering items to the handler**, up to the first one that it refuses. -/
def deliver (job : Job T η) (run : Run T η) (items : List T.Response) :
    Option Failure × Run T η :=
  let (received, offers, failure) := job.handler.offer run.received items
  let entries := offers.map fun (item, result) => Entry.offered item result
  (failure, { run with
    received
    past := entries.reverse ++ run.past
    responsesDelivered := run.responsesDelivered + offers.countP (·.2.isOk) })

/-- **The end of a callback.** A request sent past the last stage counts before the callback's own
failure. -/
def settle (job : Job T η) (run : Run T η) (flight : Flight T) (result : Except Failure Unit) :
    Run T η :=
  let slot := flight.slot
  let run := { run.log (.returned slot.stage result) with flight := none, steps := run.steps + 1 }
  -- The attempt counts even if the callback has ignored that it was refused.
  if (run.stages[slot.stage]?.map (·.violation)).getD false then
    (run.modifyStage slot.stage (·.clearViolation)).fail job (.boundary slot.stage flight.processor)
  else
    match result with
    | .error failure => run.fail job (.processor slot.stage flight.processor slot.kind failure)
    | .ok () => run.route job slot.stage

/-- **A poll of the callback in flight.** The items that it has sent to the caller are delivered at
once; if one is refused, the callback is dropped where it stands. -/
def pollFlight (job : Job T η) (run : Run T η) (flight : Flight T) : Run T η :=
  let index := flight.slot.stage
  match run.stages[index]? with
  | none => { run with flight := none }.become .running
  | some stage =>
    let (status, scene) := flight.callback.poll ⟨stage, run.memory, run.past⟩
    let items := scene.stage.callerQueue
    let run := { run with
      stages := run.stages.set index scene.stage.clearCaller
      memory := scene.memory
      past := scene.past }
    match run.deliver job items with
    -- Whatever else the callback has sent, or has still to do, is dropped with it.
    | (some failure, run) => run.fail job (.handler failure)
    | (none, run) =>
      match status with
      | .waiting rest =>
        { run with flight := some { flight with callback := rest }, isWaiting := true }
      | .finished result => run.settle job flight result

/-! ## (6) Steps -/

/-- **One step** of a run that finds its next message by `next`. A run that has come to its end
stays as it is. -/
def stepBy (next : Run T η → Option Slot) (job : Job T η) (run : Run T η) : Run T η :=
  let run := { run with isWaiting := false }
  match run.state with
  | .seeded => (run.announce job).become .running
  | .running => run.choose job (next run)
  | .delivering =>
    match run.flight with
    | some flight => run.pollFlight job flight
    | none =>
      match run.current with
      | some slot => run.start job slot
      | none => run.become .running
  | .terminated | .failed => run

/-- **One step** of a run that finds its next message in the ready queue. -/
def step (job : Job T η) (run : Run T η) : Run T η := stepBy (·.ready.next?) job run

/-- **The next message found by looking at all stages**: that of the lowest stage that has any, its
request before its response. -/
def lookAround (run : Run T η) : Option Slot :=
  run.stages.findSome? fun stage =>
    if !stage.requests.isEmpty then some ⟨stage.index, .request⟩
    else if !stage.responses.isEmpty then some ⟨stage.index, .response⟩
    else none

/-- **One step** of a run that finds its next message by looking at all stages. -/
def stepLookingAround (job : Job T η) (run : Run T η) : Run T η := stepBy lookAround job run

/-- The run after a number of steps. -/
def after (job : Job T η) (run : Run T η) : Nat → Run T η
  | 0 => run
  | n + 1 => (run.after job n).step job

/-- **A poll of a run**: steps until a callback pauses or the run comes to its end, at most `fuel`
of them. -/
def poll (job : Job T η) : (fuel : Nat) → Run T η → Run T η
  | 0, run => run
  | fuel + 1, run =>
    let run := run.step job
    if run.isWaiting || run.isFinished then run else poll job fuel run

/-- **A run polled to its end**, with at most `fuel` polls of at most `fuel` steps: the run, and the
number of polls. -/
def pollToEnd (job : Job T η) (fuel : Nat) : (polls : Nat) → Run T η → Run T η × Nat
  | 0, run => (run, 0)
  | polls + 1, run =>
    let run := run.poll job fuel
    if run.isFinished then (run, 1)
    else
      let (run, count) := pollToEnd job fuel polls run
      (run, count + 1)

/-- Steps taken in two parts. -/
theorem after_add (job : Job T η) (run : Run T η) (m n : Nat) :
    run.after job (m + n) = (run.after job m).after job n := by
  induction n with
  | zero => rfl
  | succ n ih => rw [← Nat.add_assoc, after, after, ih]

/-- A poll is a number of steps. -/
theorem poll_eq_after (job : Job T η) (fuel : Nat) (run : Run T η) :
    ∃ n, run.poll job fuel = run.after job n := by
  induction fuel generalizing run with
  | zero => exact ⟨0, rfl⟩
  | succ fuel ih =>
    by_cases stops : (run.step job).isWaiting || (run.step job).isFinished
    · exact ⟨1, if_pos stops⟩
    · obtain ⟨n, equal⟩ := ih (run.step job)
      refine ⟨1 + n, ?_⟩
      rw [after_add, ← show (run.step job).after job n = (run.after job 1).after job n from rfl,
        ← equal]
      exact if_neg stops

/-- Polling a run to its end takes it a number of steps ahead. -/
theorem pollToEnd_eq_after (job : Job T η) (fuel polls : Nat) (run : Run T η) :
    ∃ n, (run.pollToEnd job fuel polls).1 = run.after job n := by
  induction polls generalizing run with
  | zero => exact ⟨0, rfl⟩
  | succ polls ih =>
    obtain ⟨m, first⟩ := run.poll_eq_after job fuel
    by_cases ends : (run.poll job fuel).isFinished
    · refine ⟨m, ?_⟩
      rw [← first]
      simp only [pollToEnd, ends, if_true]
    · obtain ⟨n, others⟩ := ih (run.poll job fuel)
      refine ⟨m + n, ?_⟩
      rw [after_add, ← first, ← others]
      simp only [pollToEnd, ends, if_false, Bool.false_eq_true]

/-- **The items that a collecting run returns** when it succeeds. -/
def collected (run : Run T (List T.Response)) : List T.Response := run.received

end Run

end Relay
