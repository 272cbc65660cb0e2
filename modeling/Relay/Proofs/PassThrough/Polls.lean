import Relay.Proofs.PassThrough.Stance

/-!
# Callbacks of both runs

A run and its twin start the same callback, and poll alike callbacks. As these do the same, the
items for the caller are the same, the same verdicts are given on them, and the callbacks pause or
end alike.

* `Run.abreast_start` and `Run.abreast_poll` say so.
-/

namespace Relay.Run

variable {T : Traffic} {η : Type} {k : Nat} {job : Job T η} {name : String} {run twin : Run T η}

/-! ## (1) Starting -/

/-- **Both start the same callback.** -/
theorem abreast_start (blind : ∀ processor ∈ job.pipeline.processors, processor.IsBlind)
    (along : Alongside job k [] run twin) (sound : Sound job run)
    (twinWired : Wired (job.withPass k name) twin) {slot : Slot} (state : run.state = .delivering)
    (twinState : twin.state = .delivering) (outcome : run.outcome = none)
    (twinOutcome : twin.outcome = none) (flight : run.flight = none) (ready : slot ∈ run.ready)
    (twinReady : slot.shift k ∈ twin.ready) :
    Abreast job k (run.start job slot) (twin.start (job.withPass k name) (slot.shift k)) := by
  obtain ⟨stage, processor, message, rest, found, hasProcessor, popped⟩ := sound.exists_popped ready
  obtain ⟨other, twinProcessor, twinMessage, twinRest, twinFound, twinHasProcessor, twinPopped⟩ :=
    twinWired.exists_popped twinReady
  obtain rfl := popped_alongside along sound.toWired found twinFound popped twinPopped
  obtain rfl : processor = twinProcessor := by
    have moved := Pipeline.processor?_withPass_place (k := k) job.pipeline name slot.stage
    exact Option.some.inj ((hasProcessor.symm.trans moved.symm).trans twinHasProcessor)
  rw [start_eq found hasProcessor popped, start_eq twinFound twinHasProcessor twinPopped]
  refine ⟨alongside_opened along processor found twinFound popped twinPopped,
    twinState.trans state.symm, rfl, fun unstarted => ?_, fun started isStarted => ?_, ?_⟩
  · cases unstarted
  · obtain rfl := Option.some.inj isStarted
    refine ⟨_, rfl, rfl, rfl, fun here isHere => ?_⟩
    have isRest : rest = here := by
      rw [stages_opened processor twinMessage rest found,
        List.getElem?_set_self (List.getElem?_eq_some_iff.mp found).1] at isHere
      exact Option.some.inj isHere
    -- Between callbacks no refusal is left over, so that the callback begins with a clear record.
    have unviolated : here.violation = false := by
      rw [← isRest, Stage.rest_of_pop? popped]
      exact (sound.idle outcome found (by simp [flight])).2
    rw [unviolated]
    exact blind processor (List.mem_of_getElem? hasProcessor) twinMessage
  · show twin.outcome = run.outcome.map _
    rw [outcome, twinOutcome]
    rfl

/-! ## (2) Polling -/

/-- **Polls of a callback and of its twin**, and how they leave them. -/
structure PolledAlike (job : Job T η) (k : Nat) (name : String) (run twin : Run T η)
    (flight twinFlight : Flight T) where
  stage : Stage T
  other : Stage T
  turn : Turn T
  twinTurn : Turn T
  earlier : List (Turn T)
  twinEarlier : List (Turn T)
  status : Callback.Status T Unit
  twinStatus : Callback.Status T Unit
  scene : Callback.Scene T
  twinScene : Callback.Scene T
  acts : List (Entry T)
  twinActs : List (Entry T)
  engaged : run.Engaged job flight stage turn earlier
  twinEngaged : twin.Engaged (job.withPass k name) twinFlight other twinTurn twinEarlier
  polled : flight.callback.poll ⟨stage, run.memory, run.past⟩ = (status, scene)
  twinPolled : twinFlight.callback.poll ⟨other, twin.memory, twin.past⟩ = (twinStatus, twinScene)
  acted : Callback.Scene.Acted ⟨stage, run.memory, run.past⟩ scene acts
  twinActed : Callback.Scene.Acted ⟨other, twin.memory, twin.past⟩ twinScene twinActs
  isTwin : twinFlight.slot = flight.slot.shift k
  processor : twinFlight.processor = flight.processor
  scenes : Callback.Scene.Alike run.past twin.past scene twinScene
  statuses : Callback.Status.Alike scene.stage.violation status twinStatus

/-- **Alike callbacks are polled alike.** -/
theorem nonempty_polledAlike (along : Alongside job k [] run twin) (sound : Sound job run)
    (twinSound : Sound (job.withPass k name) twin) {flight twinFlight : Flight T}
    (isFlight : run.flight = some flight) (isTwinFlight : twin.flight = some twinFlight)
    (alike : FlightAlike k run flight twinFlight) :
    Nonempty (PolledAlike job k name run twin flight twinFlight) := by
  obtain ⟨stage, turn, earlier, engaged⟩ := sound.engaged flight isFlight
  obtain ⟨other, twinTurn, twinEarlier, twinEngaged⟩ := twinSound.engaged twinFlight isTwinFlight
  obtain ⟨acts, acted⟩ := flight.callback.poll_acted ⟨stage, run.memory, run.past⟩
  obtain ⟨twinActs, twinActed⟩ := twinFlight.callback.poll_acted ⟨other, twin.memory, twin.past⟩
  have stages : stage.Alike other := by
    obtain ⟨other', isOther, same⟩ := along.stages engaged.found
    have twinFound := twinEngaged.found
    rw [alike.slot] at twinFound
    obtain rfl := Option.some.inj (twinFound.symm.trans isOther)
    exact same
  have start : Callback.Scene.Alike run.past twin.past ⟨stage, run.memory, run.past⟩
      ⟨other, twin.memory, twin.past⟩ := ⟨stages, along.memory, [], [], rfl, rfl, rfl, rfl⟩
  obtain ⟨scenes, statuses⟩ :=
    Callback.poll_alike (alike.callback stage engaged.found) rfl start
  exact ⟨⟨stage, other, turn, twinTurn, earlier, twinEarlier, _, _, _, _, acts, twinActs, engaged,
    twinEngaged, rfl, rfl, acted, twinActed, alike.slot, alike.processor, scenes, statuses⟩⟩

namespace PolledAlike

variable {flight twinFlight : Flight T}

/-- The place of the twin's callback. -/
theorem place_eq (polls : PolledAlike job k name run twin flight twinFlight) :
    twinFlight.slot.stage = place k flight.slot.stage := congrArg Slot.stage polls.isTwin

/-- The same verdicts are given on the same items. -/
theorem offer_eq (polls : PolledAlike job k name run twin flight twinFlight)
    (along : Alongside job k [] run twin) :
    (job.withPass k name).handler.offer twin.received polls.twinScene.stage.callerQueue =
      job.handler.offer run.received polls.scene.stage.callerQueue := by
  have items : polls.twinScene.stage.callerQueue = polls.scene.stage.callerQueue := by
    rw [Stage.callerQueue, Stage.callerQueue, polls.scenes.stage.caller]
  rw [along.received, items]
  rfl

/-- Both handlers accept all items, or refuse with the same failure. -/
theorem refusal_eq (polls : PolledAlike job k name run twin flight twinFlight)
    (along : Alongside job k [] run twin) :
    ((job.withPass k name).handler.offer twin.received polls.twinScene.stage.callerQueue).2.2 =
      (job.handler.offer run.received polls.scene.stage.callerQueue).2.2 :=
  congrArg (·.2.2) (polls.offer_eq along)

/-- Both callbacks are settled when they have ended. -/
theorem pollFlight_eq (polls : PolledAlike job k name run twin flight twinFlight)
    (along : Alongside job k [] run twin) {result twinResult : Except Failure Unit}
    (isStatus : polls.status = .finished result)
    (isTwinStatus : polls.twinStatus = .finished twinResult)
    (accepted : (job.handler.offer run.received polls.scene.stage.callerQueue).2.2 = none) :
    run.pollFlight job flight =
        (run.afterPoll job flight.slot.stage polls.scene).settle job flight result ∧
      twin.pollFlight (job.withPass k name) twinFlight =
        (twin.afterPoll (job.withPass k name) twinFlight.slot.stage polls.twinScene).settle
          (job.withPass k name) twinFlight twinResult := by
  constructor
  · exact pollFlight_of_finished polls.engaged.found (isStatus ▸ polls.polled) accepted
  · exact pollFlight_of_finished polls.twinEngaged.found (isTwinStatus ▸ polls.twinPolled)
      ((polls.refusal_eq along).trans accepted)

/-- **Both runs are alongside after the polls.** -/
theorem alongside (polls : PolledAlike job k name run twin flight twinFlight)
    (along : Alongside job k [] run twin) :
    Alongside job k [] (run.afterPoll job flight.slot.stage polls.scene)
      (twin.afterPoll (job.withPass k name) twinFlight.slot.stage polls.twinScene) :=
  alongside_afterPoll along polls.engaged polls.acted polls.twinEngaged polls.twinActed polls.isTwin
    polls.scenes

/-- **Both runs are alongside after the callbacks have ended.** -/
theorem settled (polls : PolledAlike job k name run twin flight twinFlight)
    (along : Alongside job k [] run twin) {result twinResult : Except Failure Unit}
    (results : Result.Alike polls.scene.stage.violation result twinResult) :
    Alongside job k []
      ((run.afterPoll job flight.slot.stage polls.scene).settled flight result)
      ((twin.afterPoll (job.withPass k name) twinFlight.slot.stage polls.twinScene).settled
        twinFlight twinResult) := by
  have elsewhere : (polls.twinTurn.extend polls.twinActs).call.stage ≠ k := by
    show polls.twinTurn.call.stage ≠ k
    rw [polls.twinEngaged.place, polls.place_eq]
    exact place_ne k flight.slot.stage
  rw [← isRefused_eq_violation polls.engaged polls.acted] at results
  exact alongside_settled (polls.alongside along)
    (engaged_afterPoll job polls.engaged polls.acted).turns
    (engaged_afterPoll _ polls.twinEngaged polls.twinActed).turns elsewhere flight twinFlight
    results

/-- **Both runs are alongside** after the same has been changed about the stages of the callbacks
that have ended. -/
theorem modified (polls : PolledAlike job k name run twin flight twinFlight)
    (along : Alongside job k [] run twin) {result twinResult : Except Failure Unit}
    (results : Result.Alike polls.scene.stage.violation result twinResult)
    (change : Stage T → Stage T)
    (same : ∀ {stage other : Stage T}, stage.Alike other → (change stage).Alike (change other))
    (pending : ∀ (stage : Stage T) kind, (change stage).pending kind = stage.pending kind) :
    Alongside job k []
      (((run.afterPoll job flight.slot.stage polls.scene).settled flight result).modifyStage
        flight.slot.stage change)
      (((twin.afterPoll (job.withPass k name) twinFlight.slot.stage polls.twinScene).settled
        twinFlight twinResult).modifyStage twinFlight.slot.stage change) := by
  have settled := polls.settled along results
  have found := getElem?_settled job polls.scene result polls.engaged.found
  have twinFound := getElem?_settled (job.withPass k name) polls.twinScene twinResult
    polls.twinEngaged.found
  rw [modifyStage_eq change found, modifyStage_eq change twinFound]
  rw [polls.place_eq] at twinFound settled ⊢
  exact settled.set _ _ found twinFound (same polls.scenes.stage.clearCaller)
    (pending _) (pending _)

/-- **Both fail when the handler refuses an item.** -/
theorem refuse (polls : PolledAlike job k name run twin flight twinFlight)
    (along : Alongside job k [] run twin) (current : twin.current = run.current.map (Slot.shift k))
    {failure : Failure}
    (refused : (job.handler.offer run.received polls.scene.stage.callerQueue).2.2 = some failure) :
    Abreast job k (run.pollFlight job flight)
      (twin.pollFlight (job.withPass k name) twinFlight) := by
  have twinRefused := (polls.refusal_eq along).trans refused
  rw [pollFlight_of_refused polls.engaged.found polls.polled refused,
    pollFlight_of_refused polls.twinEngaged.found polls.twinPolled twinRefused]
  exact abreast_fail (polls.alongside along) current (.handler failure) rfl

/-- **Both pause.** -/
theorem wait (polls : PolledAlike job k name run twin flight twinFlight)
    (along : Alongside job k [] run twin) (state : twin.state = run.state)
    (current : twin.current = run.current.map (Slot.shift k)) (outcome : run.outcome = none)
    (twinOutcome : twin.outcome = none) {rest twinRest : Callback T Unit}
    (isStatus : polls.status = .waiting rest) (isTwinStatus : polls.twinStatus = .waiting twinRest)
    (alike : Callback.Alike polls.scene.stage.violation rest twinRest)
    (accepted : (job.handler.offer run.received polls.scene.stage.callerQueue).2.2 = none) :
    Abreast job k (run.pollFlight job flight)
      (twin.pollFlight (job.withPass k name) twinFlight) := by
  have twinAccepted := (polls.refusal_eq along).trans accepted
  rw [pollFlight_of_waiting polls.engaged.found (isStatus ▸ polls.polled) accepted,
    pollFlight_of_waiting polls.twinEngaged.found (isTwinStatus ▸ polls.twinPolled) twinAccepted]
  have akin : Akin (run.afterPoll job flight.slot.stage polls.scene)
      { run.afterPoll job flight.slot.stage polls.scene with
        flight := some { flight with callback := rest }
        isWaiting := true } := ⟨rfl, rfl, rfl, rfl, rfl, rfl, rfl, rfl, rfl, rfl⟩
  have twinAkin : Akin (twin.afterPoll (job.withPass k name) twinFlight.slot.stage polls.twinScene)
      { twin.afterPoll (job.withPass k name) twinFlight.slot.stage polls.twinScene with
        flight := some { twinFlight with callback := twinRest }
        isWaiting := true } := ⟨rfl, rfl, rfl, rfl, rfl, rfl, rfl, rfl, rfl, rfl⟩
  have waiting := (polls.alongside along).of_akin akin twinAkin
  refine ⟨waiting, state, current, fun unstarted => ?_, fun started isStarted => ?_, ?_⟩
  · cases unstarted
  · obtain rfl := Option.some.inj isStarted
    refine ⟨_, rfl, polls.isTwin, polls.processor, fun here isHere => ?_⟩
    have isStage : (run.afterPoll job flight.slot.stage polls.scene).stages[
        flight.slot.stage]? = some here := isHere
    rw [getElem?_afterPoll job polls.scene polls.engaged.found] at isStage
    obtain rfl := Option.some.inj isStage
    exact alike
  · show twin.outcome = run.outcome.map _
    rw [outcome, twinOutcome]
    rfl

/-- **Both fail when the callbacks have tried to send past the last stage.** -/
theorem overreach (polls : PolledAlike job k name run twin flight twinFlight)
    (along : Alongside job k [] run twin) (current : twin.current = run.current.map (Slot.shift k))
    {result twinResult : Except Failure Unit}
    (isStatus : polls.status = .finished result)
    (isTwinStatus : polls.twinStatus = .finished twinResult)
    (results : Result.Alike polls.scene.stage.violation result twinResult)
    (accepted : (job.handler.offer run.received polls.scene.stage.callerQueue).2.2 = none)
    (violation : polls.scene.stage.violation = true) :
    Abreast job k (run.pollFlight job flight)
      (twin.pollFlight (job.withPass k name) twinFlight) := by
  obtain ⟨polled, twinPolled⟩ := polls.pollFlight_eq along isStatus isTwinStatus accepted
  have found := getElem?_afterPoll job polls.scene polls.engaged.found
  have twinFound := getElem?_afterPoll (job.withPass k name) polls.twinScene polls.twinEngaged.found
  rw [polled, twinPolled, settle_of_violation found violation,
    settle_of_violation twinFound (polls.scenes.stage.violation.trans violation)]
  have cleared := polls.modified along results (·.clearViolation)
    (fun alike => alike.clearViolation) (fun _ kind => by cases kind <;> rfl)
  refine abreast_fail cleared current (.boundary flight.slot.stage flight.processor) ?_
  rw [RunError.withPass, polls.place_eq, polls.processor]

/-- **Both fail when the callbacks fail.** -/
theorem fail (polls : PolledAlike job k name run twin flight twinFlight)
    (along : Alongside job k [] run twin) (current : twin.current = run.current.map (Slot.shift k))
    {failure twinFailure : Failure} (isStatus : polls.status = .finished (.error failure))
    (isTwinStatus : polls.twinStatus = .finished (.error twinFailure))
    (results : Result.Alike polls.scene.stage.violation (.error failure : Except Failure Unit)
      (.error twinFailure))
    (accepted : (job.handler.offer run.received polls.scene.stage.callerQueue).2.2 = none)
    (violation : polls.scene.stage.violation = false) :
    Abreast job k (run.pollFlight job flight)
      (twin.pollFlight (job.withPass k name) twinFlight) := by
  obtain ⟨polled, twinPolled⟩ := polls.pollFlight_eq along isStatus isTwinStatus accepted
  have found := getElem?_afterPoll job polls.scene polls.engaged.found
  have twinFound := getElem?_afterPoll (job.withPass k name) polls.twinScene polls.twinEngaged.found
  have settled := polls.settled along results
  -- Without a refusal before it, a failure is the same in both runs.
  obtain rfl : twinFailure = failure := by
    cases results with
    | error _ _ same => exact same violation
  rw [polled, twinPolled, settle_of_error found violation,
    settle_of_error twinFound (polls.scenes.stage.violation.trans violation)]
  have kinds : twinFlight.slot.kind = flight.slot.kind := by
    rw [polls.isTwin]
    rfl
  refine abreast_fail settled current
    (.processor flight.slot.stage flight.processor flight.slot.kind twinFailure) ?_
  rw [RunError.withPass, polls.place_eq, polls.processor, kinds]

/-- **Both route the same when the callbacks end well.** -/
theorem finish (polls : PolledAlike job k name run twin flight twinFlight) (pos : 0 < k)
    (within : k < job.pipeline.size) (along : Alongside job k [] run twin)
    (wired : Wired job run) (twinWired : Wired (job.withPass k name) twin)
    (current : twin.current = run.current.map (Slot.shift k)) (outcome : run.outcome = none)
    (twinOutcome : twin.outcome = none) (isStatus : polls.status = .finished (.ok ()))
    (isTwinStatus : polls.twinStatus = .finished (.ok ()))
    (accepted : (job.handler.offer run.received polls.scene.stage.callerQueue).2.2 = none)
    (violation : polls.scene.stage.violation = false) :
    Abreast job k (run.pollFlight job flight)
      (twin.pollFlight (job.withPass k name) twinFlight) := by
  obtain ⟨polled, twinPolled⟩ := polls.pollFlight_eq along isStatus isTwinStatus accepted
  have found := getElem?_afterPoll job polls.scene polls.engaged.found
  have twinFound := getElem?_afterPoll (job.withPass k name) polls.twinScene polls.twinEngaged.found
  have closed := polls.modified along (.ok ()) (·.clearOutbox)
    (fun alike => alike.clearOutbox) (fun _ kind => by cases kind <;> rfl)
  rw [modifyStage_clearOutbox job polls.engaged.found,
    modifyStage_clearOutbox (job.withPass k name) polls.twinEngaged.found] at closed
  have routed := alongside_routed pos within closed
    (wired_closed wired polls.engaged.found polls.acted)
    (wired_closed twinWired polls.twinEngaged.found polls.twinActed) flight.slot.stage
    polls.scene.stage.outbox
  obtain ⟨reports, finished⟩ := finish_eq wired polls.engaged polls.acted
  obtain ⟨twinReports, twinFinished⟩ := finish_eq twinWired polls.twinEngaged polls.twinActed
  rw [polled, twinPolled, settle_of_ok found violation,
    settle_of_ok twinFound (polls.scenes.stage.violation.trans violation), finished, twinFinished,
    polls.scenes.stage.outbox, polls.place_eq]
  exact abreast_of_idle (routed.of_akin (.resume _ reports) (.resume _ twinReports)) rfl current rfl
    rfl outcome twinOutcome

end PolledAlike

/-- **Alike callbacks are polled, and the runs stay abreast.** -/
theorem abreast_poll (pos : 0 < k) (within : k < job.pipeline.size) (sound : Sound job run)
    (twinSound : Sound (job.withPass k name) twin) (abreast : Abreast job k run twin)
    {flight twinFlight : Flight T} (isFlight : run.flight = some flight)
    (isTwinFlight : twin.flight = some twinFlight) (alike : FlightAlike k run flight twinFlight)
    (outcome : run.outcome = none) :
    Abreast job k (run.pollFlight job flight)
      (twin.pollFlight (job.withPass k name) twinFlight) := by
  have along := abreast.toAlongside
  have current := abreast.current
  have twinOutcome : twin.outcome = none := by
    rw [abreast.outcome, outcome]
    rfl
  obtain ⟨polls⟩ := nonempty_polledAlike along sound twinSound isFlight isTwinFlight alike
  cases verdict : (job.handler.offer run.received polls.scene.stage.callerQueue).2.2 with
  | some failure => exact polls.refuse along current verdict
  | none =>
    -- Alike callbacks have both ended or both paused.
    have statuses := polls.statuses
    rcases isStatus : polls.status with result | rest <;>
      rcases isTwinStatus : polls.twinStatus with twinResult | twinRest <;>
      rw [isStatus, isTwinStatus] at statuses <;> cases statuses
    case waiting.waiting rests =>
      exact polls.wait along abreast.state current outcome twinOutcome isStatus isTwinStatus rests
        verdict
    case finished.finished results =>
      cases violation : polls.scene.stage.violation with
      | true => exact polls.overreach along current isStatus isTwinStatus results verdict violation
      | false =>
        cases results with
        | ok =>
          exact polls.finish pos within along sound.toWired twinSound.toWired current outcome
            twinOutcome isStatus isTwinStatus verdict violation
        | error failure twinFailure same =>
          exact polls.fail along current isStatus isTwinStatus (.error failure twinFailure same)
            verdict violation

end Relay.Run
