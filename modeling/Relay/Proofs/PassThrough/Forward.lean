import Relay.Proofs.PassThrough.Polls

/-!
# What the inserted stage does

The inserted stage takes a message that waits there, and sends it on. While it does so, the run
stands still: what has been on its way to a queue is still on its way there, or has arrived.

* `Run.advance_choose`, `Run.advance_start` and `Run.advance_forward` are the three steps of the
  twin for one message, each of which lessens the lag.
-/

namespace Relay

variable {T : Traffic} {η : Type} {k : Nat} {job : Job T η} {name : String}

/-! ## (1) The callback -/

/-- **The callback of the inserted stage** sends its message with its first poll, and ends. -/
theorem Processor.poll_passThrough (name : String) (message : Message T) {scene : Callback.Scene T}
    (notLast : scene.stage.isLast = false) :
    ∃ after acts sending, ((passThrough name).handle message).poll scene =
        (.finished (.ok ()), after) ∧ Callback.Scene.Acted scene after acts ∧
      Journal.sent acts = [sending] ∧ sending.toMessage = message ∧
      Journal.isRefused acts = false ∧ after.memory = scene.memory := by
  cases message with
  | request request =>
    obtain ⟨isOk, acted⟩ := Callback.Scene.Acted.sendRequest_of_not_isLast notLast request
    refine ⟨_, _, .request request, ?_, acted, rfl, rfl, rfl, rfl⟩
    show (Callback.forwardRequest request).poll scene = _
    simp only [Callback.forwardRequest, Callback.poll, isOk]
    rfl
  | response reply =>
    obtain ⟨acts, acted, sent, notRefused⟩ := Callback.Scene.Acted.sendReply scene reply
    exact ⟨_, acts, .response reply, rfl, acted, sent, rfl, notRefused, rfl⟩

namespace Run

variable {run twin : Run T η}

/-! ## (2) Starting -/

section Starting

variable {kind : MessageKind} {stage rest : Stage T} {message : Message T}

/-- What waits at the inserted stage before and after one of its messages is taken. -/
theorem backlog_opened (processor : Processor T) (found : twin.stages[k]? = some stage)
    (popped : stage.pop? kind = some (message, rest)) :
    twin.backlog k = (twin.opened ⟨k, kind⟩ processor message rest).backlog k + 1 := by
  have found : twin.stages[(⟨k, kind⟩ : Slot).stage]? = some stage := found
  have opened := pendingAt_opened processor found popped
  rw [backlog, backlog, opened ⟨k, .request⟩, opened ⟨k, .response⟩]
  cases kind <;> simp <;> omega

/-- A message that leaves the queue of the inserted stage does not leave the detour. -/
theorem onDetour_opened (processor : Processor T) (found : twin.stages[k]? = some stage)
    (popped : stage.pop? kind = some (message, rest)) (slot : Slot) :
    onDetour k [message] (twin.opened ⟨k, kind⟩ processor message rest) slot =
      onDetour k [] twin slot := by
  have isKind : message.kind = kind := Stage.kind_of_pop? popped
  have found : twin.stages[(⟨k, kind⟩ : Slot).stage]? = some stage := found
  have opened := pendingAt_opened processor found popped
  unfold onDetour
  cases isDetour : slot.detour? k with
  | none => rfl
  | some detour =>
    obtain rfl := Slot.of_detour? isDetour
    show _ = [] ++ twin.pendingAt ⟨k, slot.kind⟩
    rw [opened ⟨k, slot.kind⟩]
    by_cases same : slot.kind = kind
    · simp [same, isKind]
    · have different : ¬ kind = slot.kind := fun equal => same equal.symm
      simp [same, isKind, different]

/-- **The message that the inserted stage is called with** is still on its way. -/
theorem alongside_carried (along : Alongside job k [] run twin) (processor : Processor T)
    (found : twin.stages[k]? = some stage) (popped : stage.pop? kind = some (message, rest)) :
    Alongside job k [message] run (twin.opened ⟨k, kind⟩ processor message rest) := by
  have isKind : message.kind = kind := Stage.kind_of_pop? popped
  have here : (rest.callFor k message).stage = k := rfl
  have turns : Turn.ofPast (twin.opened ⟨k, kind⟩ processor message rest).past =
      { call := rest.callFor k message } :: Turn.ofPast twin.past := rfl
  have foundAt : twin.stages[(⟨k, kind⟩ : Slot).stage]? = some stage := found
  have unasked := unasked_opened twin ⟨k, kind⟩ processor message rest
  refine
    { queues := ?queues
      stages := ?stages
      eop := along.eop
      memory := along.memory
      received := unasked.received.trans along.received
      delivered := unasked.delivered.trans along.delivered
      verdicts := unasked.verdicts.trans along.verdicts
      turns := ?turns
      forwards := ?forwards
      steps := ?steps
      requests := ?requests
      responses := ?responses }
  case queues =>
    intro slot within
    -- No queue that has moved is a queue of the inserted stage.
    have opened := pendingAt_opened processor foundAt popped (slot.shift k)
    rw [if_neg (Slot.shift_ne_detour slot kind), List.nil_append] at opened
    rw [along.queues slot within, opened, onDetour_opened processor found popped]
  case stages =>
    intro index old isOld
    obtain ⟨other, isOther, alike⟩ := along.stages isOld
    refine ⟨other, ?_, alike⟩
    rw [stages_opened processor message rest foundAt]
    exact (List.getElem?_set_ne (Ne.symm (place_ne k index))).trans isOther
  case turns =>
    rw [turns, Turn.others_cons_of_eq here]
    exact along.turns
  case forwards =>
    rw [turns]
    intro turn member isHere
    rcases List.mem_cons.mp member with rfl | isOld
    · exact ⟨rfl, rfl, fun result isResult => by cases isResult⟩
    · exact along.forwards turn isOld isHere
  case steps =>
    have steps := along.steps
    rw [List.length_nil] at steps
    rw [turns, Turn.forwards_cons_of_eq here, Turn.forwards_cons_of_eq here, List.length_singleton]
    show twin.steps + 1 = run.steps + (_ + (if message.kind = _ then 1 else 0) +
      (_ + if message.kind = _ then 1 else 0))
    cases message.kind <;> simp <;> omega
  case requests =>
    rw [turns, Turn.forwards_cons_of_eq here]
    show twin.requestsProcessed + (if kind = .request then 1 else 0) =
      run.requestsProcessed + (_ + if message.kind = .request then 1 else 0)
    rw [along.requests, isKind, Nat.add_assoc]
  case responses =>
    rw [turns, Turn.forwards_cons_of_eq here]
    show twin.responsesProcessed + (if kind = .response then 1 else 0) =
      run.responsesProcessed + (_ + if message.kind = .response then 1 else 0)
    rw [along.responses, isKind, Nat.add_assoc]

end Starting

/-! ## (3) Sending on -/

section Forwarding

variable {flight : Flight T} {stage : Stage T} {scene : Callback.Scene T} {turn : Turn T}
  {earlier : List (Turn T)} {acts : List (Entry T)} {message : Message T} {sending : Outgoing T}

/-- An inserted stage is not the first one, and sends nothing to the caller. -/
theorem callerQueue_of_inserted (pos : 0 < k) (twinWired : Wired (job.withPass k name) twin)
    (found : twin.stages[k]? = some stage)
    (acted : Callback.Scene.Acted ⟨stage, twin.memory, twin.past⟩ scene acts) :
    scene.stage.callerQueue = [] := by
  rw [callerQueue_of_acted twinWired found acted, Outgoing.forCaller, if_neg (Nat.ne_of_gt pos)]

/-- The caller's handler is not asked about what the inserted stage sends. -/
theorem unasked_arrived (pos : 0 < k) (twinWired : Wired (job.withPass k name) twin)
    (isHere : flight.slot.stage = k) (found : twin.stages[flight.slot.stage]? = some stage)
    (acted : Callback.Scene.Acted ⟨stage, twin.memory, twin.past⟩ scene acts)
    (sent : List (Outgoing T)) :
    twin.Unasked ((twin.closed (job.withPass k name) flight scene).routed k sent) := by
  have nothing := callerQueue_of_inserted pos twinWired (isHere ▸ found) acted
  have verdicts := verdicts_afterPoll (job.withPass k name) flight.slot.stage acted
  have settled := unasked_settled (twin.afterPoll (job.withPass k name) flight.slot.stage scene)
    flight (.ok ())
  rw [nothing] at verdicts
  refine ⟨settled.verdicts.trans (verdicts.trans (List.append_nil _)), ?_, ?_⟩
  · show ((job.withPass k name).handler.offer twin.received scene.stage.callerQueue).1 = _
    rw [nothing]
    rfl
  · show twin.responsesDelivered + ((job.withPass k name).handler.offer twin.received
      scene.stage.callerQueue).2.1.countP (·.2.isOk) = _
    rw [nothing]
    rfl

/-- What waits at the inserted stage still waits there when a message has been sent on. -/
theorem pendingAt_arrived (within : k < job.pipeline.size)
    (twinWired : Wired (job.withPass k name) twin)
    (found : twin.stages[flight.slot.stage]? = some stage)
    (acted : Callback.Scene.Acted ⟨stage, twin.memory, twin.past⟩ scene acts)
    (sent : List (Outgoing T)) (kind : MessageKind) :
    ((twin.closed (job.withPass k name) flight scene).routed k sent).pendingAt ⟨k, kind⟩ =
      twin.pendingAt ⟨k, kind⟩ := by
  have between : (⟨k, kind⟩ : Slot).stage <
      (twin.closed (job.withPass k name) flight scene).stages.length := by
    rw [(wired_closed twinWired found acted).length_eq, job.size_withPass within]
    exact Nat.lt_succ_of_lt within
  rw [pendingAt_routed k sent between, Outgoing.arrivals_self, List.append_nil,
    pendingAt_closed found acted]

/-- **A message that has been sent on** is off the detour and in the queue that it is for. -/
theorem queues_arrived (pos : 0 < k) (within : k < job.pipeline.size)
    (twinWired : Wired (job.withPass k name) twin)
    (found : twin.stages[flight.slot.stage]? = some stage)
    (acted : Callback.Scene.Acted ⟨stage, twin.memory, twin.past⟩ scene acts)
    (isMessage : sending.toMessage = message) {slot : Slot}
    (inside : slot.stage < job.pipeline.size) :
    twin.pendingAt (slot.shift k) ++ onDetour k [message] twin slot =
      ((twin.closed (job.withPass k name) flight scene).routed k [sending]).pendingAt
          (slot.shift k) ++ onDetour k []
        ((twin.closed (job.withPass k name) flight scene).routed k [sending]) slot := by
  have there : (slot.shift k).stage <
      (twin.closed (job.withPass k name) flight scene).stages.length := by
    rw [(wired_closed twinWired found acted).length_eq, job.size_withPass within]
    exact (place_lt_succ_iff within).mpr inside
  rw [pendingAt_routed k [sending] there, pendingAt_closed found acted,
    onDetour_congr (pendingAt_arrived within twinWired found acted [sending]),
    Outgoing.arrivals_of_self pos, isMessage, List.append_assoc, onDetour, onDetour]
  cases slot.detour? k with
  | none => rfl
  | some detour => simp

/-- **A message that the inserted stage has sent on** has arrived. -/
theorem alongside_arrived (pos : 0 < k) (within : k < job.pipeline.size)
    (along : Alongside job k [message] run twin) (twinWired : Wired (job.withPass k name) twin)
    (isHere : flight.slot.stage = k)
    (engaged : twin.Engaged (job.withPass k name) flight stage turn earlier)
    (called : turn.call.message = message)
    (acted : Callback.Scene.Acted ⟨stage, twin.memory, twin.past⟩ scene acts)
    (sent : Journal.sent acts = [sending]) (isMessage : sending.toMessage = message)
    (notRefused : Journal.isRefused acts = false) (memory : scene.memory = twin.memory) :
    Alongside job k [] run
      ((twin.closed (job.withPass k name) flight scene).routed k [sending]) := by
  have here : turn.call.stage = k := engaged.place.trans isHere
  have unasked := unasked_arrived pos twinWired isHere engaged.found acted [sending]
  have late : Turn.ofPast ((twin.closed (job.withPass k name) flight scene).routed k
      [sending]).past = (turn.extend acts).ended (.ok ()) :: earlier :=
    ofPast_afterPoll_settled (job.withPass k name) engaged acted (.ok ())
  have lateHere : ((turn.extend acts).ended (.ok ())).call.stage = k := here
  -- The turn has been counted when it was opened.
  have counts := fun kind => Turn.forwards_eq_of_head (k := k) engaged.turns late rfl kind
  refine
    { queues := ?queues
      stages := ?stages
      eop := ?eop
      memory := memory.trans along.memory
      received := unasked.received.trans along.received
      delivered := unasked.delivered.trans along.delivered
      verdicts := unasked.verdicts.trans along.verdicts
      turns := ?turns
      forwards := ?forwards
      steps := ?steps
      requests := ?requests
      responses := ?responses }
  case queues =>
    intro slot inside
    rw [along.queues slot inside]
    exact queues_arrived pos within twinWired engaged.found acted isMessage inside
  case stages =>
    intro index old isOld
    obtain ⟨other, isOther, alike⟩ := along.stages isOld
    have kept : (twin.closed (job.withPass k name) flight scene).stages[place k index]? =
        some other := by
      have elsewhere : flight.slot.stage ≠ place k index := by
        rw [isHere]
        exact Ne.symm (place_ne k index)
      exact (List.getElem?_set_ne elsewhere).trans isOther
    refine ⟨other.receive (place k index) k [sending], ?_, alike_receive alike _ _ _⟩
    rw [routed, List.getElem?_mapIdx, kept]
    rfl
  case eop =>
    have notFirst : (k == 0) = false := by simpa using Nat.ne_of_gt pos
    show (twin.eopReached || (k == 0 && _)) = run.eopReached
    rw [notFirst, Bool.false_and, Bool.or_false, along.eop]
  case turns =>
    have turns := along.turns
    rw [engaged.turns, Turn.others_cons_of_eq here] at turns
    rw [late, Turn.others_cons_of_eq lateHere]
    exact turns
  case forwards =>
    rw [late]
    intro other member otherHere
    rcases List.mem_cons.mp member with rfl | isOld
    · have isForward := along.forwards turn (engaged.turns ▸ List.mem_cons_self) here
      exact isForward.ended engaged.result sent (isMessage.trans called.symm) notRefused
    · exact along.forwards other (engaged.turns ▸ List.mem_cons_of_mem _ isOld) otherHere
  case steps =>
    rw [counts, counts]
    exact along.steps
  case requests =>
    rw [counts]
    exact along.requests
  case responses =>
    rw [counts]
    exact along.responses

/-- **The inserted stage sends its message on** with the first poll of its callback. -/
theorem pollFlight_inserted (pos : 0 < k) (within : k < job.pipeline.size)
    (along : Alongside job k [message] run twin) (twinSound : Sound (job.withPass k name) twin)
    (isFlight : twin.flight =
      some ⟨⟨k, message.kind⟩, name, (Processor.passThrough name).handle message⟩)
    (turns : Turn.ofPast twin.past = turn :: earlier) (called : turn.call.message = message) :
    ∃ arrived reports, twin.pollFlight (job.withPass k name)
        ⟨⟨k, message.kind⟩, name, (Processor.passThrough name).handle message⟩ =
          { Run.reporting arrived reports with state := .running } ∧
      Alongside job k [] run arrived ∧ arrived.backlog k = twin.backlog k ∧
      arrived.flight = none ∧ arrived.current = twin.current ∧ arrived.outcome = twin.outcome := by
  obtain ⟨stage, turn', earlier', engaged⟩ := twinSound.engaged _ isFlight
  obtain ⟨rfl, rfl⟩ := List.cons.inj (engaged.turns.symm.trans turns)
  have isForward := along.forwards turn' (turns ▸ List.mem_cons_self) engaged.place
  -- As there is a stage behind it, the inserted stage may send requests.
  have notLast : stage.isLast = false := by
    have size := job.size_withPass within name
    rw [twinSound.isLast_eq engaged.found, size]
    simpa using Nat.ne_of_lt within
  obtain ⟨scene, acts, sending, polled, acted, sent, isMessage, notRefused, memory⟩ :=
    Processor.poll_passThrough name message
      (show (⟨stage, twin.memory, twin.past⟩ : Callback.Scene T).stage.isLast = false from notLast)
  have accepted : ((job.withPass k name).handler.offer twin.received
      scene.stage.callerQueue).2.2 = none := by
    rw [callerQueue_of_inserted pos twinSound.toWired engaged.found acted]
    rfl
  have violation : scene.stage.violation = false := by
    rw [← isRefused_eq_violation engaged acted]
    show (turn'.isRefused || Journal.isRefused acts) = false
    rw [isForward.accepted, notRefused]
    rfl
  -- Nothing has been sent before, and nothing goes to the caller instead.
  have outbox : scene.stage.outbox = [sending] := by
    have noneBefore := isForward.sent_eq_nil engaged.result
    have still := engaged_afterPoll (job.withPass k name) engaged acted
    have feeds : scene.stage.clearCaller.feedsCaller = (k == 0) :=
      (wired_afterPoll twinSound.toWired engaged.found acted).feedsCaller_eq still.found
    have notFirst : (k == 0) = false := by simpa using Nat.ne_of_gt pos
    have all := still.outbox
    rw [Stage.toNeighbours, feeds, notFirst] at all
    show scene.stage.clearCaller.outbox = [sending]
    rw [all]
    show turn'.sent ++ Journal.sent acts = [sending]
    rw [noneBefore, sent]
    rfl
  obtain ⟨reports, finished⟩ := finish_eq twinSound.toWired engaged acted
  rw [outbox] at finished
  refine ⟨(twin.closed (job.withPass k name) ⟨⟨k, message.kind⟩, name,
    (Processor.passThrough name).handle message⟩ scene).routed k [sending], reports, ?_, ?_, ?_,
    rfl, rfl, rfl⟩
  · rw [pollFlight_of_finished engaged.found polled accepted,
      settle_of_ok (getElem?_afterPoll (job.withPass k name) scene engaged.found) violation]
    exact finished
  · exact alongside_arrived pos within along twinSound.toWired rfl engaged called acted sent
      isMessage notRefused memory
  · rw [backlog, backlog, pendingAt_arrived within twinSound.toWired engaged.found acted,
      pendingAt_arrived within twinSound.toWired engaged.found acted]

end Forwarding

/-! ## (4) Steps of the inserted stage -/

/-- **The inserted stage is chosen.** -/
theorem advance_choose (along : Alongside job k [] run twin) (state : run.state = .running)
    (twinState : twin.state = .running) (flight : twin.flight = none)
    (eop : twin.eopReached = false) {kind : MessageKind} (next : twin.ready.next? = some ⟨k, kind⟩)
    (free : twin.limitReached (job.withPass k name) = none) :
    Stance job k name run (twin.step (job.withPass k name)) ∧
      lag k (twin.step (job.withPass k name)) < lag k twin := by
  have notOut : twin.awake.eopReached = false := eop
  have isFree : twin.awake.limitReached (job.withPass k name) = none := free
  have chosen : twin.step (job.withPass k name) =
      { twin.awake with current := some ⟨k, kind⟩ }.become .delivering := by
    rw [step_of_running twinState, next]
    exact choose_some notOut isFree ⟨k, kind⟩
  rw [chosen]
  constructor
  · have akin := (Akin.awake twin).trans (.choose twin.awake ⟨k, kind⟩)
    exact .chosen kind (along.of_akin (.refl run) akin) state rfl flight rfl
  · have after : lag k ({ twin.awake with current := some ⟨k, kind⟩ }.become .delivering) =
        3 * twin.backlog k + 1 := lag_of_chosen rfl flight
    rw [lag_of_running twinState flight, after]
    exact Nat.lt_succ_self _

/-- **The inserted stage is called.** -/
theorem advance_start (within : k < job.pipeline.size) (along : Alongside job k [] run twin)
    (twinSound : Sound (job.withPass k name) twin) (state : run.state = .running)
    (twinState : twin.state = .delivering) (flight : twin.flight = none) {kind : MessageKind}
    (current : twin.current = some ⟨k, kind⟩) :
    Stance job k name run (twin.step (job.withPass k name)) ∧
      lag k (twin.step (job.withPass k name)) < lag k twin := by
  obtain ⟨slot, isCurrent, ready, -⟩ := twinSound.exists_chosen twinState flight
  obtain rfl : ⟨k, kind⟩ = slot := Option.some.inj (current.symm.trans isCurrent)
  obtain ⟨stage, processor, message, rest, found, hasProcessor, popped⟩ :=
    twinSound.exists_popped ready
  obtain rfl : Processor.passThrough name = processor := by
    have inserted := Pipeline.processor?_withPass_self within name
    exact Option.some.inj (inserted.symm.trans hasProcessor)
  obtain rfl : message.kind = kind := Stage.kind_of_pop? popped
  have opened : twin.step (job.withPass k name) =
      twin.awake.opened ⟨k, message.kind⟩ (.passThrough name) message rest := by
    rw [step_of_chosen twinState flight current]
    exact start_eq found hasProcessor popped
  rw [opened]
  constructor
  · exact .forwarding message { call := rest.callFor k message } (Turn.ofPast twin.past)
      (alongside_carried (along.of_akin (.refl run) (.awake twin)) _ found popped) state twinState
      rfl rfl rfl
  · have fewer : twin.backlog k = (twin.awake.opened ⟨k, message.kind⟩ (.passThrough name) message
        rest).backlog k + 1 := backlog_opened (.passThrough name) found popped
    rw [lag_of_chosen twinState flight, lag_of_inFlight rfl, fewer]
    omega

/-- **The inserted stage sends its message on**, and both runs are abreast again. -/
theorem advance_forward (pos : 0 < k) (within : k < job.pipeline.size) {message : Message T}
    {turn : Turn T} {earlier : List (Turn T)} (along : Alongside job k [message] run twin)
    (sound : Sound job run) (twinSound : Sound (job.withPass k name) twin)
    (state : run.state = .running)
    (isFlight : twin.flight =
      some ⟨⟨k, message.kind⟩, name, (Processor.passThrough name).handle message⟩)
    (turns : Turn.ofPast twin.past = turn :: earlier) (called : turn.call.message = message) :
    Stance job k name run (twin.step (job.withPass k name)) ∧
      lag k (twin.step (job.withPass k name)) < lag k twin := by
  obtain ⟨outcome, flight, current⟩ := sound.atRest state (.inr rfl)
  obtain ⟨twinState, twinOutcome, twinCurrent⟩ := twinSound.inFlight isFlight
  obtain ⟨arrived, reports, polled, arriving, sameBacklog, noFlight, sameCurrent, sameOutcome⟩ :=
    pollFlight_inserted pos within (along.of_akin (.refl run) (.awake twin)) twinSound.awake
      isFlight turns called
  rw [step_of_inFlight twinState isFlight, polled]
  constructor
  · have along := arriving.of_akin (.refl run) (.resume arrived reports)
    refine .abreast (abreast_of_idle along state.symm ?_ flight noFlight outcome
      (sameOutcome.trans twinOutcome))
    rw [current]
    exact sameCurrent.trans twinCurrent
  · have after : lag k { arrived.reporting reports with state := .running } =
        3 * arrived.backlog k + 2 := lag_of_running rfl noFlight
    have before : twin.awake.backlog k = twin.backlog k := rfl
    rw [lag_of_inFlight isFlight, after, sameBacklog, before]
    exact Nat.lt_succ_self _

end Run

end Relay
