import Relay.Proofs.Observation.Gist
import Relay.Proofs.PassThrough.Invisible

/-!
# Reporting and metadata change no run

Two jobs have the same work if they send the same request through the same processors to the same
handler, under the same limit. Their names, their metadata and all that is to be reported may
differ. If the processors are incurious, the runs of such jobs have one gist in every state.

* `Job.SameWork` says when jobs have the same work.
* `Run.gist_step_alike` says that steps keep runs with one gist so.
* `Run.SameButReports` says what runs have in common that differ in what they report only.
* `Run.reports_are_immaterial` is the result.
-/

namespace Relay

variable {T : Traffic} {η : Type}

/-! ## (1) Jobs with the same work -/

/-- **Jobs with the same work.** Their identifiers and the times that their runs take may differ as
well. -/
structure Job.SameWork (job other : Job T η) : Prop where
  processors : other.pipeline.processors = job.pipeline.processors
  request : other.request = job.request
  handler : other.handler = job.handler
  maxSteps : other.config.maxSteps = job.config.maxSteps

namespace Run

variable {job other : Job T η} {run twin : Run T η}

/-- Runs of such jobs begin with one gist. -/
theorem gist_seed_alike (work : job.SameWork other) (received : η) (memory : T.Memory) :
    (seed job received memory).gist = (seed other received memory).gist := by
  have fresh : (freshStages job).map Stage.anonymous =
      (freshStages other).map Stage.anonymous := by
    refine List.ext_getElem? fun index => ?_
    rw [List.getElem?_map, List.getElem?_map, freshStages, freshStages, List.getElem?_mapIdx,
      List.getElem?_mapIdx, Pipeline.size, Pipeline.size, work.processors]
    cases job.pipeline.processors[index]? <;> rfl
  have attach (job : Job T η) : ((freshStages job).modify 0 fun stage =>
      (stage.enqueueRequest job.request).attachCaller).map Stage.anonymous =
        ((freshStages job).map Stage.anonymous).modify 0 fun stage =>
          (stage.enqueueRequest job.request).attachCaller :=
    map_modify _ (by intro _; rfl) (freshStages job) 0
  have stages : (seed job received memory).stages.map Stage.anonymous =
      (seed other received memory).stages.map Stage.anonymous := by
    rw [seed, seed, attach, attach, fresh, work.request]
  simp only [gist, stages]
  rfl

/-! ## (2) Steps -/

section Alike

variable (same : run.gist = twin.gist)

include same

/-- Runs with one gist have the same stages, but for what is left out. -/
theorem exists_stage_alike {index : Nat} {stage : Stage T}
    (found : run.stages[index]? = some stage) :
    ∃ otherStage, twin.stages[index]? = some otherStage ∧
      stage.anonymous = otherStage.anonymous := by
  have stages : run.stages.map Stage.anonymous = twin.stages.map Stage.anonymous :=
    congrArg Run.stages same
  have isThere := congrArg (·[index]?) stages
  simp only [List.getElem?_map, found, Option.map_some] at isThere
  obtain ⟨otherStage, isFound, sameStage⟩ := Option.map_eq_some_iff.mp isThere.symm
  exact ⟨otherStage, isFound, sameStage.symm⟩

/-- They fail alike. -/
theorem gist_fail_alike (error : RunError) :
    (run.fail job error).gist = (twin.fail other error).gist := by
  rw [gist_fail, gist_fail, same]

/-- **They choose alike.** -/
theorem gist_choose_alike (work : job.SameWork other) (next : Option Slot) :
    (run.choose job next).gist = (twin.choose other next).gist := by
  have steps : run.steps = twin.steps := congrArg (·.steps) same
  have reached : run.eopReached = twin.eopReached := congrArg (·.eopReached) same
  have length : run.stages.length = twin.stages.length := by
    have stages : run.stages.map Stage.anonymous = twin.stages.map Stage.anonymous :=
      congrArg Run.stages same
    simpa using congrArg List.length stages
  have limit : run.limitReached job = twin.limitReached other := by
    rw [limitReached, limitReached, work.maxSteps, steps]
  cases eop : run.eopReached with
  | true =>
    rw [choose_of_eop eop, choose_of_eop (reached ▸ eop), gist_succeed, gist_succeed, same]
  | false =>
    have otherEop : twin.eopReached = false := reached ▸ eop
    cases next with
    | none =>
      rw [choose_none eop, choose_none otherEop, steps, length]
      exact gist_fail_alike same _
    | some slot =>
      cases isReached : run.limitReached job with
      | some bound =>
        rw [choose_of_limitReached eop isReached,
          choose_of_limitReached otherEop (limit ▸ isReached)]
        exact gist_fail_alike same _
      | none =>
        rw [choose_some eop isReached, choose_some otherEop (limit ▸ isReached), gist_become,
          gist_become]
        exact congrArg (fun gist : Run T η =>
          { gist with current := some slot, state := .delivering }) same

section Polling

variable {flight : Flight T} {stage otherStage : Stage T} {status : Callback.Status T Unit}
  {scene otherScene : Callback.Scene T}

/-- **A poll of an incurious callback** goes the same way in both, and leaves scenes with one
gist. -/
theorem exists_polled_alike (otherSound : Sound other twin) (incurious : flight.callback.Incurious)
    (polled : run.Polled flight stage status scene) :
    ∃ otherStage otherScene, twin.Polled flight otherStage status otherScene ∧
      scene.gist = otherScene.gist := by
  have memory : run.memory = twin.memory := congrArg (·.memory) same
  have past : Journal.gist run.past = Journal.gist twin.past := congrArg (·.past) same
  have isFlight : twin.flight = some flight :=
    (congrArg (·.flight) same).symm.trans polled.isFlight
  obtain ⟨state, outcome, current⟩ := otherSound.inFlight isFlight
  obtain ⟨otherStage, found, sameStage⟩ := exists_stage_alike same polled.found
  have sameScene : (Callback.Scene.mk stage run.memory run.past).gist =
      (Callback.Scene.mk otherStage twin.memory twin.past).gist := by
    rw [Callback.Scene.gist, Callback.Scene.gist, sameStage, memory, past]
  obtain ⟨sameStatus, later, -⟩ := Callback.poll_alike_of_incurious incurious sameScene
  rw [polled.polled] at sameStatus later
  exact ⟨otherStage, (flight.callback.poll ⟨otherStage, twin.memory, twin.past⟩).2,
    ⟨state, outcome, isFlight, current, found, Prod.ext sameStatus.symm rfl⟩, later⟩

/-- What the handler makes of a poll is the same. -/
theorem gist_afterPoll_alike (work : job.SameWork other) (sameEnd : scene.gist = otherScene.gist)
    (index : Nat) :
    (run.afterPoll job index scene).gist = (twin.afterPoll other index otherScene).gist := by
  rw [gist_afterPoll, gist_afterPoll, same, sameEnd, afterPoll, afterPoll, work.handler]

/-- **What a callback has sent when it ends well** goes the same way in both. -/
theorem gist_finish_alike (work : job.SameWork other) (sound : Sound job run)
    (otherSound : Sound other twin)
    (polled : run.Polled flight stage (.finished (.ok ())) scene)
    (otherPolled : twin.Polled flight otherStage (.finished (.ok ())) otherScene)
    (sameEnd : scene.gist = otherScene.gist) :
    (((run.afterPoll job flight.slot.stage scene).settled flight (.ok ())).route job
        flight.slot.stage).gist =
      (((twin.afterPoll other flight.slot.stage otherScene).settled flight (.ok ())).route other
        flight.slot.stage).gist := by
  obtain ⟨turn, earlier, acts, engaged, acted⟩ := exists_acted sound polled
  obtain ⟨otherTurn, otherEarlier, otherActs, otherEngaged, otherActed⟩ :=
    exists_acted otherSound otherPolled
  obtain ⟨reports, finished⟩ := finish_eq sound.toWired engaged acted
  obtain ⟨otherReports, otherFinished⟩ := finish_eq otherSound.toWired otherEngaged otherActed
  have outbox : scene.stage.outbox = otherScene.stage.outbox := congrArg (·.stage.outbox) sameEnd
  have closed : (run.closed job flight scene).gist =
      (twin.closed other flight otherScene).gist := by
    rw [gist_closed, gist_closed, same, sameEnd, Run.closed, Run.closed, afterPoll, afterPoll,
      work.handler]
  have routed : ((run.closed job flight scene).routed flight.slot.stage scene.stage.outbox).gist =
      ((twin.closed other flight otherScene).routed flight.slot.stage
        otherScene.stage.outbox).gist := by
    rw [gist_routed, gist_routed, closed, outbox]
  rw [finished, otherFinished]
  exact congrArg (fun gist : Run T η => { gist with state := .running })
    ((gist_reporting _ _).trans (routed.trans (gist_reporting _ _).symm))

/-- **The end of a callback** is the same in both. -/
theorem gist_settle_alike (work : job.SameWork other) (sound : Sound job run)
    (otherSound : Sound other twin) {result : Except Failure Unit}
    (polled : run.Polled flight stage (.finished result) scene)
    (otherPolled : twin.Polled flight otherStage (.finished result) otherScene)
    (sameEnd : scene.gist = otherScene.gist) :
    ((run.afterPoll job flight.slot.stage scene).settle job flight result).gist =
      ((twin.afterPoll other flight.slot.stage otherScene).settle other flight result).gist := by
  have isThere := getElem?_afterPoll job scene polled.found
  have isOtherThere := getElem?_afterPoll other otherScene otherPolled.found
  have sameViolation : scene.stage.violation = otherScene.stage.violation :=
    congrArg (·.stage.violation) sameEnd
  have settled : ((run.afterPoll job flight.slot.stage scene).settled flight result).gist =
      ((twin.afterPoll other flight.slot.stage otherScene).settled flight result).gist := by
    rw [gist_settled, gist_settled, gist_afterPoll_alike same work sameEnd]
  cases violation : scene.stage.violation with
  | true =>
    rw [settle_of_violation isThere violation,
      settle_of_violation isOtherThere (sameViolation ▸ violation)]
    refine gist_fail_alike ?_ _
    rw [gist_modifyStage _ _ (·.clearViolation) fun _ => rfl,
      gist_modifyStage _ _ (·.clearViolation) fun _ => rfl, settled]
  | false =>
    have otherViolation : otherScene.stage.violation = false := sameViolation ▸ violation
    cases result with
    | error failure =>
      rw [settle_of_error isThere violation, settle_of_error isOtherThere otherViolation]
      exact gist_fail_alike settled _
    | ok =>
      rw [settle_of_ok isThere violation, settle_of_ok isOtherThere otherViolation]
      exact gist_finish_alike same work sound otherSound polled otherPolled sameEnd

/-- **They poll alike** a callback that is incurious. -/
theorem gist_pollFlight_alike (work : job.SameWork other) (sound : Sound job run)
    (otherSound : Sound other twin) (incurious : flight.callback.Incurious)
    (polled : run.Polled flight stage status scene) :
    (run.pollFlight job flight).gist = (twin.pollFlight other flight).gist := by
  obtain ⟨otherStage, otherScene, otherPolled, sameEnd⟩ :=
    exists_polled_alike same otherSound incurious polled
  have received : run.received = twin.received := congrArg (·.received) same
  have queue : scene.stage.callerQueue = otherScene.stage.callerQueue :=
    congrArg (·.stage.callerQueue) sameEnd
  have sameOffer : job.handler.offer run.received scene.stage.callerQueue =
      other.handler.offer twin.received otherScene.stage.callerQueue := by
    rw [work.handler, received, queue]
  have after := gist_afterPoll_alike same work sameEnd flight.slot.stage
  cases verdict : (job.handler.offer run.received scene.stage.callerQueue).2.2 with
  | some failure =>
    rw [pollFlight_of_refused polled.found polled.polled verdict,
      pollFlight_of_refused otherPolled.found otherPolled.polled (sameOffer ▸ verdict)]
    exact gist_fail_alike after _
  | none =>
    have otherVerdict : (other.handler.offer twin.received
        otherScene.stage.callerQueue).2.2 = none := sameOffer ▸ verdict
    cases status with
    | waiting rest =>
      rw [pollFlight_of_waiting polled.found polled.polled verdict,
        pollFlight_of_waiting otherPolled.found otherPolled.polled otherVerdict]
      exact congrArg (fun gist : Run T η =>
        { gist with flight := some { flight with callback := rest }, isWaiting := true }) after
    | finished result =>
      rw [pollFlight_of_finished polled.found polled.polled verdict,
        pollFlight_of_finished otherPolled.found otherPolled.polled otherVerdict]
      exact gist_settle_alike same work sound otherSound polled otherPolled sameEnd

end Polling

/-- **They go on alike**, as long as the callback in flight is incurious. -/
theorem gist_step_alike (work : job.SameWork other) (sound : Sound job run)
    (otherSound : Sound other twin)
    (incurious : ∀ flight, run.flight = some flight → flight.callback.Incurious) :
    (run.step job).gist = (twin.step other).gist := by
  have awake : run.awake.gist = twin.awake.gist :=
    congrArg (fun gist : Run T η => { gist with isWaiting := false }) same
  have sameState : run.state = twin.state := congrArg (·.state) same
  have sameFlight : run.flight = twin.flight := congrArg (·.flight) same
  have sameReady : run.ready = twin.ready := congrArg (·.ready) same
  have ended (isTerminal : run.state.isTerminal = true) :
      (run.step job).gist = (twin.step other).gist := by
    rw [step_of_isTerminal isTerminal, step_of_isTerminal (sameState ▸ isTerminal)]
    exact awake
  cases sound.phase with
  | atRest state =>
    rcases state with seeded | running
    · rw [step_of_seeded seeded, step_of_seeded (sameState ▸ seeded), gist_become, gist_become,
        gist_announce, gist_announce, awake]
    · rw [step_of_running running, step_of_running (sameState ▸ running), sameReady]
      exact gist_choose_alike awake work _
  | chosen slot state outcome flight current ready =>
    obtain ⟨stage, processor, message, rest, found, hasProcessor, popped⟩ :=
      sound.exists_popped ready
    obtain ⟨otherStage, otherFound, sameStage⟩ := exists_stage_alike same found
    obtain ⟨otherRest, otherPopped, sameRest⟩ := Stage.pop?_alike sameStage popped
    have otherProcessor : other.pipeline.processor? slot.stage = some processor := by
      rw [Pipeline.processor?, work.processors]
      exact hasProcessor
    have otherCurrent : twin.current = some slot :=
      (congrArg (·.current) same).symm.trans current
    have started : run.awake.start job slot = run.awake.opened slot processor message rest :=
      start_eq found hasProcessor popped
    have otherStarted : twin.awake.start other slot =
        twin.awake.opened slot processor message otherRest :=
      start_eq otherFound otherProcessor otherPopped
    rw [step_of_chosen state flight current, started,
      step_of_chosen (sameState ▸ state) (sameFlight ▸ flight) otherCurrent, otherStarted,
      gist_opened, gist_opened, awake, sameRest]
  | inFlight flight state outcome isFlight current =>
    rw [step_of_inFlight state isFlight,
      step_of_inFlight (sameState ▸ state) (sameFlight ▸ isFlight)]
    obtain ⟨stage, status, scene, polled⟩ := sound.exists_polled isFlight
    exact gist_pollFlight_alike awake work sound.awake otherSound.awake
      (incurious flight isFlight) polled
  | succeeded summary state =>
    exact ended (by rw [state]; rfl)
  | failed error state =>
    exact ended (by rw [state]; rfl)

end Alike

/-- The callbacks that incurious processors start are so however often they are left waiting. -/
theorem incurious_after (incurious : ∀ processor ∈ job.pipeline.processors, processor.IsIncurious)
    (received : η) (memory : T.Memory) (n : Nat) (flight : Flight T)
    (isFlight : ((seed job received memory).after job n).flight = some flight) :
    flight.callback.Incurious := by
  refine callback_after (P := fun _ callback => callback.Incurious) ?starts ?leaves received
    memory n flight isFlight
  case starts =>
    intro slot processor message hasProcessor _
    exact incurious processor (List.mem_of_getElem? hasProcessor) message
  case leaves =>
    rintro slot callback rest isIncurious ⟨scene, later, left⟩
    have status : (callback.poll scene).1 = .waiting rest := by rw [left]
    exact (Callback.poll_alike_of_incurious isIncurious rfl).2.2 rest status

/-- **In every state that they come to**, runs of jobs with the same work have one gist. -/
theorem gist_after_alike (work : job.SameWork other)
    (incurious : ∀ processor ∈ job.pipeline.processors, processor.IsIncurious)
    (received : η) (memory : T.Memory) (n : Nat) :
    ((seed job received memory).after job n).gist =
      ((seed other received memory).after other n).gist := by
  induction n with
  | zero => exact gist_seed_alike work received memory
  | succ n ih =>
    exact gist_step_alike ih work (sound_after job received memory n)
      (sound_after other received memory n) (incurious_after incurious received memory n)

end Run

/-! ## (3) What is seen of runs with one gist -/

namespace Journal

/-- **A journal whose log is cut off at a level.** -/
def atLevel (threshold : Log.Level) (journal : List (Entry T)) : List (Entry T) :=
  journal.filter fun entry => entry.record?.all fun record => record.level.isEnabled threshold

/-- Nothing but the log is cut off. -/
theorem gist_atLevel (threshold : Log.Level) (journal : List (Entry T)) :
    gist (atLevel threshold journal) = gist journal := by
  rw [gist, atLevel, List.filter_filter]
  refine List.filter_congr fun entry _ => ?_
  cases entry <;> simp [Entry.isReport, Entry.record?]

/-- Calls are in the gist. -/
theorem calls_gist (journal : List (Entry T)) : calls (gist journal) = calls journal := by
  rw [calls, gist, List.filterMap_filter]
  refine congrArg (List.filterMap · journal) (funext fun entry => ?_)
  cases entry <;> rfl

/-- So are the verdicts of the handler. -/
theorem verdicts_gist (journal : List (Entry T)) : verdicts (gist journal) = verdicts journal := by
  rw [verdicts, gist, List.filterMap_filter]
  refine congrArg (List.filterMap · journal) (funext fun entry => ?_)
  cases entry <;> rfl

end Journal

/-- **The summary as another job tells it**: only the identifier of the run, the name of the
pipeline and the times are that job's own. -/
def RunSummary.retold (job : Job T η) (summary : RunSummary) : RunSummary :=
  { summary with
    runId := job.runId
    pipeline := job.pipeline.name
    startedAt := job.startedAt
    durationMs := job.durationMs }

namespace Run

variable {job other : Job T η} {run twin : Run T η}

/-- **Runs that differ in what they report only**, the second one being a run of the other job. -/
structure SameButReports (other : Job T η) (run twin : Run T η) : Prop where
  /-- The same callbacks have started in the same order, with the same messages. -/
  calls : Journal.calls twin.journal = Journal.calls run.journal
  /-- They have sent and noted down the same, and have ended alike. -/
  turns : twin.turns = run.turns
  /-- The handler has been offered the same items, with the same verdicts on them, -/
  verdicts : twin.verdicts = run.verdicts
  /-- and so remembers the same. -/
  received : twin.received = run.received
  memory : twin.memory = run.memory
  /-- Whatever is no report has happened in the same order, wherever the logs are cut off. -/
  journals : ∀ level otherLevel, Journal.gist (Journal.atLevel otherLevel twin.journal) =
    Journal.gist (Journal.atLevel level run.journal)
  state : twin.state = run.state
  isWaiting : twin.isWaiting = run.isWaiting
  steps : twin.steps = run.steps
  requestsProcessed : twin.requestsProcessed = run.requestsProcessed
  responsesProcessed : twin.responsesProcessed = run.responsesProcessed
  responsesDelivered : twin.responsesDelivered = run.responsesDelivered
  /-- Both are under way, or have failed with the same error, or have succeeded with the same
  counters. -/
  outcome : twin.outcome = run.outcome.map fun result => result.map (RunSummary.retold other)

section Seen

variable (same : run.gist = twin.gist)

include same

/-- What has happened but for reports is the same. -/
theorem gist_journal_alike : Journal.gist run.journal = Journal.gist twin.journal := by
  have past : Journal.gist run.past = Journal.gist twin.past := congrArg (·.past) same
  rw [Run.journal, Run.journal, Journal.gist, Journal.gist, List.filter_reverse,
    List.filter_reverse]
  exact congrArg List.reverse past

/-- The summaries tell the same but for what is each job's own. -/
theorem summary_alike : twin.summary other = (run.summary job).retold other := by
  have stages : run.stages.map Stage.anonymous = twin.stages.map Stage.anonymous :=
    congrArg Run.stages same
  have length : run.stages.length = twin.stages.length := by
    simpa using congrArg List.length stages
  have steps : run.steps = twin.steps := congrArg (·.steps) same
  have requests : run.requestsProcessed = twin.requestsProcessed :=
    congrArg (·.requestsProcessed) same
  have responses : run.responsesProcessed = twin.responsesProcessed :=
    congrArg (·.responsesProcessed) same
  have delivered : run.responsesDelivered = twin.responsesDelivered :=
    congrArg (·.responsesDelivered) same
  rw [summary, summary, RunSummary.retold, length, steps, requests, responses, delivered]

/-- **The ends are the same**, if a summary is each run's own. -/
theorem outcome_alike
    (own : ∀ summary, run.outcome = some (.ok summary) → summary = run.summary job)
    (otherOwn : ∀ summary, twin.outcome = some (.ok summary) → summary = twin.summary other) :
    twin.outcome = run.outcome.map fun result => result.map (RunSummary.retold other) := by
  have outcome : run.outcome.map (fun result => result.map fun _ => RunSummary.blank) =
      twin.outcome.map fun result => result.map fun _ => RunSummary.blank :=
    congrArg Run.outcome same
  cases ended : run.outcome with
  | none =>
    rw [ended] at outcome
    exact Option.map_eq_none_iff.mp outcome.symm
  | some result =>
    rw [ended] at outcome
    obtain ⟨otherResult, otherEnded, alike⟩ := Option.map_eq_some_iff.mp outcome.symm
    rw [otherEnded]
    cases result with
    | error error =>
      cases otherResult with
      | error otherError => exact congrArg some (congrArg Except.error (Except.error.inj alike))
      | ok _ => cases alike
    | ok summary =>
      cases otherResult with
      | error _ => cases alike
      | ok otherSummary =>
        rw [own summary ended, otherOwn otherSummary otherEnded, summary_alike same]
        rfl

/-- **Runs with one gist differ in what they report only**, if a summary is each one's own. -/
theorem sameButReports_of_gist
    (own : ∀ summary, run.outcome = some (.ok summary) → summary = run.summary job)
    (otherOwn : ∀ summary, twin.outcome = some (.ok summary) → summary = twin.summary other) :
    SameButReports other run twin := by
  have past : Journal.gist run.past = Journal.gist twin.past := congrArg (·.past) same
  have journal := gist_journal_alike same
  constructor
  case calls => rw [← Journal.calls_gist, ← journal, Journal.calls_gist]
  case turns => rw [turns, turns, ← Journal.ofPast_gist, ← past, Journal.ofPast_gist]
  case verdicts =>
    rw [verdicts, verdicts, ← Journal.verdicts_gist, ← journal, Journal.verdicts_gist]
  case received => exact (congrArg (·.received) same).symm
  case memory => exact (congrArg (·.memory) same).symm
  case journals =>
    intro level otherLevel
    rw [Journal.gist_atLevel, Journal.gist_atLevel, journal]
  case state => exact (congrArg (·.state) same).symm
  case isWaiting => exact (congrArg (·.isWaiting) same).symm
  case steps => exact (congrArg (·.steps) same).symm
  case requestsProcessed => exact (congrArg (·.requestsProcessed) same).symm
  case responsesProcessed => exact (congrArg (·.responsesProcessed) same).symm
  case responsesDelivered => exact (congrArg (·.responsesDelivered) same).symm
  case outcome => exact outcome_alike same own otherOwn

end Seen

/-- **Nothing that is reported, and no metadata, changes a run.** Let two jobs send the same request
through the same processors to the same handler under the same limit, and let the processors look at
neither metadata nor identifiers. The name and the metadata of the pipeline, the event sink, whether
events are emitted, the settings of the log, the identifier of the run and its times may differ, and
so may the levels at which the logs are cut off. Then the runs go step by step through states that
differ in what they report only: the same callbacks start in the same order with the same messages,
the handler is offered the same items, and both end at the same step, with the same error or the
same counters. -/
theorem reports_are_immaterial (work : job.SameWork other)
    (incurious : ∀ processor ∈ job.pipeline.processors, processor.IsIncurious)
    (received : η) (memory : T.Memory) (n : Nat) :
    SameButReports other ((seed job received memory).after job n)
      ((seed other received memory).after other n) :=
  sameButReports_of_gist (gist_after_alike work incurious received memory n)
    (fun _ succeeded => summary_of_success job received memory n succeeded)
    (fun _ succeeded => summary_of_success other received memory n succeeded)

/-- **The exchange, reported**: under another name, with a service, with all events in the log and
the log in another form. -/
def reportedExchange : Job numbers (List Nat) where
  pipeline :=
    { name := "reported"
      processors := exchange.pipeline.processors
      metadata := { service := some { id := "desk", serviceType := "answers" } }
      name_not_blank := by decide
      processors_ne_nil := exchange.pipeline.processors_ne_nil }
  request := (0 : Nat)
  handler := .collecting
  config := { emitEvents := false, logging := { filter := "trace", format := .json } }
  sink := .logging .debug
  runId := ⟨7⟩
  startedAt := ⟨⟨2025, 2, 3⟩, 0, 0⟩
  durationMs := 5

/-- The exchange takes the same course with and without these reports. -/
theorem exchange_sameButReports :
    exchange.SameWork reportedExchange ∧
      (∀ processor ∈ exchange.pipeline.processors, processor.IsIncurious) ∧
      ∀ n, SameButReports reportedExchange ((seed exchange [] ()).after exchange n)
        ((seed reportedExchange [] ()).after reportedExchange n) := by
  have work : exchange.SameWork reportedExchange := ⟨rfl, rfl, rfl, rfl⟩
  have incurious : ∀ processor ∈ exchange.pipeline.processors, processor.IsIncurious := by
    intro processor member
    rcases List.mem_pair.mp member with rfl | rfl
    · exact Processor.isIncurious_passThrough "front"
    · exact Processor.isIncurious_terminal _ "back" _
  exact ⟨work, incurious, fun n => reports_are_immaterial work incurious [] () n⟩

end Run

end Relay
