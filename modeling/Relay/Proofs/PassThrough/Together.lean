import Relay.Proofs.PassThrough.Alongside

/-!
# What both runs do together

A run and its twin stay alongside each other in all that they do together: when they start a
callback with the same message, when they poll alike callbacks, when these end, and when what they
have sent is routed.
-/

namespace Relay.Run

variable {T : Traffic} {η : Type} {k : Nat} {job : Job T η} {name : String}
  {run twin : Run T η}

/-! ## (1) Replacing stages -/

/-- A stage of the run and its twin, after both of them have been replaced. -/
theorem stages_set_alike
    (alike : ∀ {index stage}, run.stages[index]? = some stage →
      ∃ other, twin.stages[place k index]? = some other ∧ stage.Alike other)
    {index : Nat} {stage other old : Stage T} (found : twin.stages[place k index]? = some old)
    (same : stage.Alike other) {spot : Nat} {replaced : Stage T}
    (isReplaced : (run.stages.set index stage)[spot]? = some replaced) :
    ∃ twinReplaced, (twin.stages.set (place k index) other)[place k spot]? = some twinReplaced ∧
      replaced.Alike twinReplaced := by
  rcases getElem?_set_cases isReplaced with ⟨rfl, rfl⟩ | ⟨elsewhere, isOld⟩
  · exact ⟨other, List.getElem?_set_self (List.getElem?_eq_some_iff.mp found).1, same⟩
  · obtain ⟨old, twinOld, alikeOld⟩ := alike isOld
    have twinElsewhere : place k index ≠ place k spot := fun equal =>
      elsewhere (place_inj.mp equal).symm
    exact ⟨old, (List.getElem?_set_ne twinElsewhere).trans twinOld, alikeOld⟩

/-- Queues that have not changed are on no other detours. -/
theorem onDetour_congr {carried : List (Message T)} {next : Run T η}
    (pending : ∀ kind, next.pendingAt ⟨k, kind⟩ = twin.pendingAt ⟨k, kind⟩) (slot : Slot) :
    onDetour k carried next slot = onDetour k carried twin slot := by
  unfold onDetour
  cases isDetour : slot.detour? k with
  | none => rfl
  | some detour =>
    rw [Slot.of_detour? isDetour]
    exact congrArg (_ ++ ·) (pending slot.kind)

/-! ## (2) Starting -/

/-- Stages without the message that has been taken are alike if they were before. -/
theorem rest_alike {stage other rest twinRest : Stage T} {kind : MessageKind}
    {message twinMessage : Message T} (alike : stage.Alike other)
    (popped : stage.pop? kind = some (message, rest))
    (twinPopped : other.pop? kind = some (twinMessage, twinRest)) : rest.Alike twinRest := by
  rw [Stage.rest_of_pop? popped, Stage.rest_of_pop? twinPopped]
  exact ⟨alike.processor, alike.runId, alike.metadata, alike.data, alike.outbox, alike.caller,
    alike.eop, alike.violation, alike.isFirst, alike.isLast⟩

/-- **The first message of a queue is the first one of its twin**, as long as that has any. -/
theorem popped_alongside (along : Alongside job k [] run twin) (wired : Wired job run) {slot : Slot}
    {stage other rest twinRest : Stage T} {message twinMessage : Message T}
    (found : run.stages[slot.stage]? = some stage)
    (twinFound : twin.stages[place k slot.stage]? = some other)
    (popped : stage.pop? slot.kind = some (message, rest))
    (twinPopped : other.pop? slot.kind = some (twinMessage, twinRest)) : twinMessage = message := by
  have queues := along.queues slot (wired.lt_size found)
  have twinPending : twin.pendingAt (slot.shift k) = other.pending slot.kind :=
    pendingAt_of_found twinFound
  rw [pendingAt_of_found found, twinPending, Stage.pending_of_pop? popped,
    Stage.pending_of_pop? twinPopped] at queues
  exact (List.cons.inj queues).1.symm

/-- A callback that is started opens a turn. -/
theorem ofPast_opened (run : Run T η) (slot : Slot) (processor : Processor T) (message : Message T)
    (rest : Stage T) :
    Turn.ofPast (run.opened slot processor message rest).past =
      { call := rest.callFor slot.stage message } :: Turn.ofPast run.past := rfl

/-- **Both start the same callback.** -/
theorem alongside_opened (along : Alongside job k [] run twin) {slot : Slot}
    {stage other rest twinRest : Stage T} {message : Message T} (processor : Processor T)
    (found : run.stages[slot.stage]? = some stage)
    (twinFound : twin.stages[place k slot.stage]? = some other)
    (popped : stage.pop? slot.kind = some (message, rest))
    (twinPopped : other.pop? slot.kind = some (message, twinRest)) :
    Alongside job k [] (run.opened slot processor message rest)
      (twin.opened (slot.shift k) processor message twinRest) where
  queues slot' within := by
    have queues := along.queues slot' within
    have opened := pendingAt_opened processor found popped slot'
    have twinOpened : ∀ other, twin.pendingAt other =
        (if other = slot.shift k then [message] else []) ++
          (twin.opened (slot.shift k) processor message twinRest).pendingAt other :=
      pendingAt_opened processor twinFound twinPopped
    have detour : onDetour k [] (twin.opened (slot.shift k) processor message twinRest) slot' =
        onDetour k [] twin slot' := by
      refine onDetour_congr (fun kind => ?_) slot'
      rw [twinOpened ⟨k, kind⟩, if_neg (Ne.symm (Slot.shift_ne_detour slot kind))]
      rfl
    have first : (if slot'.shift k = slot.shift k then [message] else []) =
        if slot' = slot then [message] else [] := if_congr Slot.shift_inj rfl rfl
    -- The message leaves the same queue of both runs, so that the rest of it is still the same.
    rw [opened, twinOpened (slot'.shift k), first, List.append_assoc] at queues
    rw [detour]
    exact List.append_cancel_left queues
  stages := by
    have alike : rest.Alike twinRest := by
      obtain ⟨other', isOther, same⟩ := along.stages found
      obtain rfl := Option.some.inj (twinFound.symm.trans isOther)
      exact rest_alike same popped twinPopped
    have twinStages : (twin.opened (slot.shift k) processor message twinRest).stages =
        twin.stages.set (place k slot.stage) twinRest :=
      stages_opened processor message twinRest twinFound
    rw [stages_opened processor message rest found, twinStages]
    intro spot replaced isReplaced
    exact stages_set_alike along.stages twinFound alike isReplaced
  eop := along.eop
  memory := along.memory
  received := along.received
  delivered := along.delivered
  verdicts := by
    rw [(unasked_opened twin _ _ _ _).verdicts, (unasked_opened run _ _ _ _).verdicts]
    exact along.verdicts
  turns := by
    rw [ofPast_opened, ofPast_opened, Turn.others_cons_of_ne (place_ne k slot.stage)]
    obtain ⟨other', isOther, same⟩ := along.stages found
    obtain rfl := Option.some.inj (twinFound.symm.trans isOther)
    exact .cons ⟨rfl, rfl, (rest_alike same popped twinPopped).eop, rfl, rfl, .none⟩ along.turns
  forwards := by
    rw [ofPast_opened]
    intro turn member here
    rcases List.mem_cons.mp member with rfl | isOld
    · exact absurd here (place_ne k slot.stage)
    · exact along.forwards turn isOld here
  steps := by
    rw [ofPast_opened, Turn.forwards_cons_of_ne (place_ne k slot.stage),
      Turn.forwards_cons_of_ne (place_ne k slot.stage)]
    exact along.steps
  requests := by
    rw [ofPast_opened, Turn.forwards_cons_of_ne (place_ne k slot.stage)]
    show twin.requestsProcessed + _ = run.requestsProcessed + _ + _
    rw [along.requests, Nat.add_right_comm]
    rfl
  responses := by
    rw [ofPast_opened, Turn.forwards_cons_of_ne (place_ne k slot.stage)]
    show twin.responsesProcessed + _ = run.responsesProcessed + _ + _
    rw [along.responses, Nat.add_right_comm]
    rfl

/-! ## (3) Polling -/

/-- **Runs stay alongside** when a stage of both is replaced by one with the same queues. -/
theorem Alongside.set {carried : List (Message T)} (along : Alongside job k carried run twin)
    {index : Nat} {stage other : Stage T} (next twinNext : Stage T)
    (found : run.stages[index]? = some stage)
    (twinFound : twin.stages[place k index]? = some other) (same : next.Alike twinNext)
    (pending : ∀ kind, next.pending kind = stage.pending kind)
    (twinPending : ∀ kind, twinNext.pending kind = other.pending kind) :
    Alongside job k carried { run with stages := run.stages.set index next }
      { twin with stages := twin.stages.set (place k index) twinNext } where
  queues slot within := by
    rw [pendingAt_set found pending, pendingAt_set twinFound twinPending,
      onDetour_congr (fun kind => pendingAt_set twinFound twinPending ⟨k, kind⟩) slot]
    exact along.queues slot within
  stages := stages_set_alike along.stages twinFound same
  eop := along.eop
  memory := along.memory
  received := along.received
  delivered := along.delivered
  verdicts := along.verdicts
  turns := along.turns
  forwards := along.forwards
  steps := along.steps
  requests := along.requests
  responses := along.responses

section Polling

variable {flight twinFlight : Flight T} {stage other : Stage T} {scene twinScene : Callback.Scene T}
  {turn twinTurn : Turn T} {earlier twinEarlier : List (Turn T)} {acts twinActs : List (Entry T)}

/-- The turns of a callback and its twin are the latest of both runs. -/
theorem turns_of_engaged {carried : List (Message T)} (along : Alongside job k carried run twin)
    (turns : Turn.ofPast run.past = turn :: earlier)
    (twinTurns : Turn.ofPast twin.past = twinTurn :: twinEarlier)
    (elsewhere : twinTurn.call.stage ≠ k) :
    turn.Mirrored k twinTurn ∧
      List.Forall₂ (Turn.Mirrored k) earlier (Turn.others k twinEarlier) := by
  have both := along.turns
  rw [turns, twinTurns, Turn.others_cons_of_ne elsewhere] at both
  cases both with
  | cons mirrored rest => exact ⟨mirrored, rest⟩

/-- A new latest turn of another stage changes nothing about the turns of the inserted one. -/
theorem forwards_of_head {carried : List (Message T)} (along : Alongside job k carried run twin)
    {late : Turn T} (twinTurns : Turn.ofPast twin.past = twinTurn :: twinEarlier)
    (elsewhere : late.call.stage ≠ k) :
    ∀ turn ∈ late :: twinEarlier, turn.call.stage = k → turn.IsForward := by
  intro turn member here
  rcases List.mem_cons.mp member with rfl | isOld
  · exact absurd here elsewhere
  · refine along.forwards turn ?_ here
    rw [twinTurns]
    exact List.mem_cons_of_mem _ isOld

/-- What waits at a stage is not touched by a poll. -/
theorem pending_clearCaller
    (acted : Callback.Scene.Acted ⟨stage, run.memory, run.past⟩ scene acts) (kind : MessageKind) :
    scene.stage.clearCaller.pending kind = stage.pending kind := by
  rw [acted.stage]
  cases kind <;> rfl

/-- **Both poll alike.** -/
theorem alongside_afterPoll (along : Alongside job k [] run twin)
    (engaged : run.Engaged job flight stage turn earlier)
    (acted : Callback.Scene.Acted ⟨stage, run.memory, run.past⟩ scene acts)
    (twinEngaged : twin.Engaged (job.withPass k name) twinFlight other twinTurn twinEarlier)
    (twinActed : Callback.Scene.Acted ⟨other, twin.memory, twin.past⟩ twinScene twinActs)
    (isTwin : twinFlight.slot = flight.slot.shift k)
    (scenes : Callback.Scene.Alike run.past twin.past scene twinScene) :
    Alongside job k [] (run.afterPoll job flight.slot.stage scene)
      (twin.afterPoll (job.withPass k name) twinFlight.slot.stage twinScene) := by
  have place : twinFlight.slot.stage = place k flight.slot.stage := congrArg Slot.stage isTwin
  have twinFound := twinEngaged.found
  rw [place] at twinFound ⊢
  have elsewhere : twinTurn.call.stage ≠ k := by
    rw [twinEngaged.place, place]
    exact place_ne k flight.slot.stage
  obtain ⟨mirrored, before⟩ := turns_of_engaged along engaged.turns twinEngaged.turns elsewhere
  obtain ⟨sent, refused⟩ := scenes.sent_eq acted.past twinActed.past
  have items : twinScene.stage.callerQueue = scene.stage.callerQueue := by
    rw [Stage.callerQueue, Stage.callerQueue, scenes.stage.caller]
  have offers : (job.withPass k name).handler.offer twin.received twinScene.stage.callerQueue =
      job.handler.offer run.received scene.stage.callerQueue := by
    rw [along.received, items]
    rfl
  have replaced := along.set scene.stage.clearCaller twinScene.stage.clearCaller engaged.found
    twinFound scenes.stage.clearCaller (pending_clearCaller acted) (pending_clearCaller twinActed)
  have turns := (engaged_afterPoll job engaged acted).turns
  have twinTurns := (engaged_afterPoll (job.withPass k name) twinEngaged twinActed).turns
  rw [place] at twinTurns
  have lateElsewhere : (twinTurn.extend twinActs).call.stage ≠ k := elsewhere
  -- The turn that is extended is not one of the inserted stage.
  have counts := fun kind => Turn.forwards_eq_of_head (k := k) twinEngaged.turns twinTurns rfl kind
  refine
    { queues := replaced.queues
      stages := replaced.stages
      eop := along.eop
      memory := scenes.memory
      received := congrArg Prod.fst offers
      delivered := ?delivered
      verdicts := ?verdicts
      turns := ?turns
      forwards := ?forwards
      steps := ?steps
      requests := ?requests
      responses := ?responses }
  case delivered =>
    show twin.responsesDelivered + _ = run.responsesDelivered + _
    rw [along.delivered, offers]
  case verdicts =>
    rw [verdicts_afterPoll _ _ twinActed, verdicts_afterPoll _ _ acted, along.verdicts, offers]
  case turns =>
    rw [turns, twinTurns, Turn.others_cons_of_ne lateElsewhere]
    refine .cons ⟨mirrored.stage, mirrored.message, mirrored.eop, ?_, ?_, ?_⟩ before
    · show twinTurn.sent ++ _ = turn.sent ++ _
      rw [mirrored.sent, sent]
    · show (twinTurn.isRefused || _) = (turn.isRefused || _)
      rw [mirrored.isRefused, refused]
    · show Option.Rel _ turn.result twinTurn.result
      rw [engaged.result, twinEngaged.result]
      exact .none
  case forwards =>
    rw [twinTurns]
    exact forwards_of_head along twinEngaged.turns lateElsewhere
  case steps =>
    rw [counts, counts]
    exact along.steps
  case requests =>
    rw [counts]
    exact along.requests
  case responses =>
    rw [counts]
    exact along.responses

/-! ## (4) Ending -/

/-- **Both callbacks end alike.** -/
theorem alongside_settled (along : Alongside job k [] run twin)
    (turns : Turn.ofPast run.past = turn :: earlier)
    (twinTurns : Turn.ofPast twin.past = twinTurn :: twinEarlier)
    (elsewhere : twinTurn.call.stage ≠ k) (flight twinFlight : Flight T)
    {result twinResult : Except Failure Unit}
    (results : Result.Alike turn.isRefused result twinResult) :
    Alongside job k [] (run.settled flight result) (twin.settled twinFlight twinResult) := by
  obtain ⟨mirrored, before⟩ := turns_of_engaged along turns twinTurns elsewhere
  have late := ofPast_settled turns flight result
  have twinLate := ofPast_settled twinTurns twinFlight twinResult
  have lateElsewhere : (twinTurn.ended twinResult).call.stage ≠ k := elsewhere
  have counts := fun kind => Turn.forwards_eq_of_head (k := k) twinTurns twinLate rfl kind
  refine
    { queues := along.queues
      stages := along.stages
      eop := along.eop
      memory := along.memory
      received := along.received
      delivered := along.delivered
      verdicts := ?verdicts
      turns := ?turns
      forwards := ?forwards
      steps := ?steps
      requests := ?requests
      responses := ?responses }
  case verdicts =>
    rw [(unasked_settled twin twinFlight twinResult).verdicts,
      (unasked_settled run flight result).verdicts]
    exact along.verdicts
  case turns =>
    rw [late, twinLate, Turn.others_cons_of_ne lateElsewhere]
    exact .cons ⟨mirrored.stage, mirrored.message, mirrored.eop, mirrored.sent, mirrored.isRefused,
      .some results⟩ before
  case forwards =>
    rw [twinLate]
    exact forwards_of_head along twinTurns lateElsewhere
  case steps =>
    have steps := along.steps
    rw [counts, counts]
    show twin.steps + 1 + 0 = run.steps + 1 + _
    rw [List.length_nil] at steps
    omega
  case requests =>
    rw [counts]
    exact along.requests
  case responses =>
    rw [counts]
    exact along.responses

end Polling

/-- Stages stay alike whatever the second one receives. -/
theorem alike_receive {stage other : Stage T} (alike : stage.Alike other) (spot sender : Nat)
    (sent : List (Outgoing T)) : stage.Alike (other.receive spot sender sent) :=
  ⟨alike.processor, alike.runId, alike.metadata, alike.data, alike.outbox, alike.caller, alike.eop,
    alike.violation, alike.isFirst, alike.isLast⟩

/-- Stages stay alike whatever both of them receive. -/
theorem receive_alike {stage other : Stage T} (alike : stage.Alike other) (spot spot' : Nat)
    (sender sender' : Nat) (sent : List (Outgoing T)) :
    (stage.receive spot sender sent).Alike (other.receive spot' sender' sent) := by
  have twin := alike_receive alike spot' sender' sent
  exact ⟨twin.processor, twin.runId, twin.metadata, twin.data, twin.outbox, twin.caller, twin.eop,
    twin.violation, twin.isFirst, twin.isLast⟩

/-- **Both route the same.** -/
theorem alongside_routed (pos : 0 < k) (within : k < job.pipeline.size)
    (along : Alongside job k [] run twin) (wired : Wired job run)
    (twinWired : Wired (job.withPass k name) twin) (sender : Nat) (sent : List (Outgoing T)) :
    Alongside job k [] (run.routed sender sent) (twin.routed (place k sender) sent) where
  queues slot inside := by
    have size := job.size_withPass within name
    have here : slot.stage < run.stages.length := by
      rw [wired.length_eq]
      exact inside
    have there : (slot.shift k).stage < twin.stages.length := by
      rw [twinWired.length_eq, size]
      exact (place_lt_succ_iff within).mpr inside
    have between : k < twin.stages.length := by
      rw [twinWired.length_eq, size]
      exact Nat.lt_succ_of_lt within
    have arrives := Outgoing.arrivals_reroute pos sender slot sent
    rw [pendingAt_routed sender sent here, pendingAt_routed (place k sender) sent there,
      along.queues slot inside, ← arrives, onDetour, onDetour, Slot.reroute]
    -- What used to arrive in the queue either still does, or arrives on the detour instead.
    cases isDetour : slot.detour? k with
    | none => simp
    | some detour =>
      have isBetween : detour.stage < twin.stages.length := by
        rw [Slot.of_detour? isDetour]
        exact between
      have nothing := Outgoing.arrivals_shift_of_detour? pos sender isDetour sent
      simp [nothing, pendingAt_routed (place k sender) sent isBetween]
  stages := by
    intro index stage found
    rw [routed, List.getElem?_mapIdx] at found
    obtain ⟨old, isOld, rfl⟩ := Option.map_eq_some_iff.mp found
    obtain ⟨other, twinFound, alike⟩ := along.stages isOld
    refine ⟨other.receive (place k index) (place k sender) sent, ?_, receive_alike alike _ _ _ _ _⟩
    rw [routed, List.getElem?_mapIdx, twinFound]
    rfl
  eop := by
    have first : (place k sender == 0) = (sender == 0) :=
      Bool.eq_iff_iff.mpr (by simpa using place_eq_zero_iff pos)
    show (twin.eopReached || (place k sender == 0 && _)) = (run.eopReached || (sender == 0 && _))
    rw [along.eop, first]
  memory := along.memory
  received := along.received
  delivered := along.delivered
  verdicts := along.verdicts
  turns := along.turns
  forwards := along.forwards
  steps := along.steps
  requests := along.requests
  responses := along.responses

end Relay.Run
