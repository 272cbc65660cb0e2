import Relay.Proofs.Chain.Composition
import Relay.Proofs.Rounds.Ending

/-!
# Rounds

A round is the choice of a message and all that its callback does. Where it is known how the
callback ends, so is what the round makes of the run: one more turn, one message less in its queue,
what has been sent in the queues of the neighbours, and a stage that keeps what the callback has
left there.

* `Run.exists_done` is what comes of a callback in flight, `Run.exists_round` what comes of a
  message whose turn it is.
-/

namespace Relay

variable {T : Traffic} {η : Type}

namespace Run

variable {job : Job T η} {run next : Run T η}

/-! ## (1) What stages keep -/

/-- **What the stages of a run keep**, stage by stage. -/
def kept (run : Run T η) : List (StageData T.Value) := run.stages.map (·.data)

/-- There is something kept at each stage. -/
theorem length_kept (sound : Sound job run) : run.kept.length = job.pipeline.size := by
  rw [kept, List.length_map, sound.length_eq]

/-- A failure changes nothing of it. -/
theorem kept_fail (job : Job T η) (run : Run T η) (error : RunError) :
    (run.fail job error).kept = run.kept := by
  obtain ⟨reports, failed⟩ := run.fail_eq job error
  rw [failed]
  rfl

/-- Nor of the memory. -/
theorem memory_fail (job : Job T η) (run : Run T η) (error : RunError) :
    (run.fail job error).memory = run.memory := by
  obtain ⟨reports, failed⟩ := run.fail_eq job error
  rw [failed]
  rfl

/-- A poll changes what one stage keeps. -/
theorem kept_afterPoll (job : Job T η) (run : Run T η) (index : Nat) (scene : Callback.Scene T) :
    (run.afterPoll job index scene).kept = run.kept.set index scene.stage.data :=
  List.map_set ..

/-- Clearing a violation changes nothing of it. -/
theorem kept_clearViolation (run : Run T η) (index : Nat) :
    (run.modifyStage index (·.clearViolation)).kept = run.kept := by
  refine List.ext_getElem? fun place => ?_
  simp only [kept, modifyStage, List.getElem?_map, List.getElem?_modify]
  cases run.stages[place]? with
  | none => rfl
  | some stage => split <;> rfl

/-- Nor does routing. -/
theorem kept_routed (run : Run T η) (sender : Nat) (sent : List (Outgoing T)) :
    (run.routed sender sent).kept = run.kept := by
  refine List.ext_getElem? fun place => ?_
  simp only [kept, routed, List.getElem?_map, List.getElem?_mapIdx, Option.map_map]
  rfl

/-- Nor does the start of a callback. -/
theorem kept_opened {slot : Slot} {stage rest : Stage T} {message : Message T}
    (processor : Processor T) (found : run.stages[slot.stage]? = some stage)
    (popped : stage.pop? slot.kind = some (message, rest)) :
    (run.opened slot processor message rest).kept = run.kept := by
  rw [kept, stages_opened processor message rest found]
  refine map_set_of_eq _ found ?_
  rw [Stage.rest_of_pop? popped]

/-! ## (2) The end of a callback -/

/-- **A callback in flight has been done with**: its turn has ended as the callback has, its stage
keeps what the callback has left there, and the run chooses again if all is well. -/
structure Done (run : Run T η) (slot : Slot) (turn : Turn T) (earlier : List (Turn T))
    (ending : Ending T) (next : Run T η) : Prop where
  turns : Turn.ofPast next.past = { turn with
    sent := ending.sent
    isRefused := ending.isRefused
    result := some ending.result } :: earlier
  flight : next.flight = none
  kept : next.kept = run.kept.set slot.stage ending.data
  memory : next.memory = ending.memory
  state : ending.isRefused = false → ending.result = .ok () → next.state = .running

/-- The end of a callback, with what it has done in a poll and before. -/
def endingOf (turn : Turn T) (acts : List (Entry T)) (result : Except Failure Unit)
    (scene : Callback.Scene T) : Ending T :=
  (⟨Journal.sent acts, Journal.isRefused acts, result, scene.stage.data, scene.memory⟩ :
    Ending T).behind turn.sent turn.isRefused

/-- **A callback that has ended in a poll** has been done with. -/
theorem done_pollFlight {flight : Flight T} {stage : Stage T} {scene : Callback.Scene T}
    {result : Except Failure Unit} {turn : Turn T} {earlier : List (Turn T)}
    {acts : List (Entry T)} (sound : Sound job run)
    (polled : run.Polled flight stage (.finished result) scene)
    (engaged : run.Engaged job flight stage turn earlier)
    (acted : Callback.Scene.Acted ⟨stage, run.memory, run.past⟩ scene acts)
    (accepted : (job.handler.offer run.received scene.stage.callerQueue).2.2 = none) :
    Done run flight.slot turn earlier (endingOf turn acts result scene)
      (run.pollFlight job flight) := by
  have replaced := getElem?_afterPoll job scene polled.found
  have turns := ofPast_afterPoll_settled job engaged acted result
  have kept := kept_afterPoll job run flight.slot.stage scene
  have isRefused : (turn.isRefused || Journal.isRefused acts) = scene.stage.violation :=
    isRefused_eq_violation engaged acted
  rw [pollFlight_of_finished polled.found polled.polled accepted]
  cases violation : scene.stage.violation with
  | true =>
    rw [settle_of_violation replaced violation]
    refine ⟨(ofPast_fail job _ _).trans turns, flight_fail job _ _, ?_, memory_fail job _ _, ?_⟩
    · rw [kept_fail, kept_clearViolation]
      exact kept
    · intro notRefused
      cases (isRefused.trans violation).symm.trans notRefused
  | false =>
    cases result with
    | error failure =>
      rw [settle_of_error replaced violation]
      exact ⟨(ofPast_fail job _ _).trans turns, flight_fail job _ _, (kept_fail job _ _).trans kept,
        memory_fail job _ _, fun _ isOk => by cases isOk⟩
    | ok =>
      rw [settle_of_ok replaced violation]
      obtain ⟨reports, finished⟩ := finish_eq sound.toWired engaged acted
      rw [finished]
      refine ⟨(Turn.ofPast_reports reports _).trans turns, rfl, ?_, rfl, fun _ _ => rfl⟩
      exact (kept_routed _ _ _).trans (List.map_set ..)

/-- **A callback that pauses in a poll** is resumed with what is left to do, and what it has done so
far is told. -/
theorem resumes_of_waiting {flight : Flight T} {stage : Stage T} {scene : Callback.Scene T}
    {rest : Callback T Unit} {turn : Turn T} {earlier : List (Turn T)} {acts : List (Entry T)}
    (state : run.state = .delivering) (isFlight : run.flight = some flight)
    (engaged : run.Engaged job flight stage turn earlier)
    (polled : flight.callback.poll ⟨stage, run.memory, run.past⟩ = (.waiting rest, scene))
    (acted : Callback.Scene.Acted ⟨stage, run.memory, run.past⟩ scene acts)
    (accepted : (job.handler.offer run.received scene.stage.callerQueue).2.2 = none) :
    (run.step job).flight = some { flight with callback := rest } ∧
    Turn.ofPast (run.step job).past = turn.extend acts :: earlier ∧
    (run.step job).kept = run.kept.set flight.slot.stage scene.stage.data ∧
    (run.step job).memory = scene.memory := by
  have waits := (step_of_inFlight state isFlight).trans
    (pollFlight_of_waiting engaged.found polled accepted)
  rw [waits]
  exact ⟨rfl, (engaged_afterPoll job engaged acted).turns, kept_afterPoll job run _ scene, rfl⟩

/-- **A callback in flight comes to its end**, as long as the handler accepts everything. -/
theorem exists_done (sound : Sound job run) (accepting : job.handler.IsAccepting)
    {flight : Flight T} (isFlight : run.flight = some flight) {turn : Turn T}
    {earlier : List (Turn T)} (turns : Turn.ofPast run.past = turn :: earlier)
    {data : StageData T.Value} (keeps : run.kept[flight.slot.stage]? = some data)
    {holds : Ending T → Prop}
    (ends : flight.callback.Ends (flight.slot.stage + 1 == job.pipeline.size) data run.memory
      fun ending => holds (ending.behind turn.sent turn.isRefused)) :
    ∃ n ending, holds ending ∧ Done run flight.slot turn earlier ending (run.after job n) := by
  -- Induction on what is left to do of the callback.
  induction callback : flight.callback using Callback.wellFounded_leaves.induction
    generalizing run flight turn data with
  | _ _ ih =>
    subst callback
    obtain ⟨state, outcome, current⟩ := sound.inFlight isFlight
    obtain ⟨stage, other, before, engaged⟩ := sound.engaged flight isFlight
    obtain ⟨rfl, rfl⟩ := List.cons.inj (turns.symm.trans engaged.turns)
    have isData : stage.data = data := by
      rw [kept, List.getElem?_map, engaged.found] at keeps
      exact Option.some.inj keeps
    rw [← sound.isLast_eq engaged.found, ← isData] at ends
    obtain ⟨acts, nears⟩ := Callback.nears_poll ⟨stage, run.memory, run.past⟩ ends
    obtain ⟨isActed, acted⟩ := flight.callback.poll_acted ⟨stage, run.memory, run.past⟩
    obtain rfl : isActed = acts := List.append_cancel_right (acted.past.symm.trans nears.past)
    rcases polled : flight.callback.poll ⟨stage, run.memory, run.past⟩ with ⟨status, scene⟩
    rw [polled] at nears acted
    have accepted : (job.handler.offer run.received scene.stage.callerQueue).2.2 = none := by
      rw [accepting.offer_eq]
    cases status with
    | finished result =>
      have done := done_pollFlight sound.awake ⟨state, outcome, isFlight, current, engaged.found,
        polled⟩ ⟨engaged.found, engaged.processor, engaged.turns, engaged.place, engaged.kind,
          engaged.result, engaged.outbox, engaged.violation, engaged.request?_of_isLast,
          engaged.isLast_of_isRefused⟩ acted accepted
      rw [← step_of_inFlight state isFlight] at done
      exact ⟨1, _, nears.finished result rfl, done.turns, done.flight, done.kept, done.memory,
        done.state⟩
    | waiting rest =>
      obtain ⟨isLater, later, kept, memory⟩ :=
        resumes_of_waiting state isFlight engaged polled acted accepted
      have keepsLater : (run.step job).kept[flight.slot.stage]? = some scene.stage.data := by
        rw [kept, List.getElem?_set_self (List.getElem?_eq_some_iff.mp keeps).1]
      have nearer := nears.waiting rest rfl
      simp only [Ending.behind_behind, sound.isLast_eq engaged.found, ← memory] at nearer
      obtain ⟨n, ending, isEnd, done⟩ := ih rest ⟨_, _, polled⟩ (sound_step sound) isLater later
        keepsLater nearer rfl
      refine ⟨n + 1, ending, isEnd, ?_⟩
      rw [← after_step]
      refine ⟨done.turns, done.flight, ?_, done.memory, done.state⟩
      rw [done.kept, kept, List.set_set]

/-! ## (3) A round -/

/-- **A message that comes first is chosen.** -/
theorem step_of_first (sound : Sound job run) (unlimited : job.config.maxSteps = none)
    (state : run.state = .running) (eop : run.eopReached = false) {slot : Slot}
    (waits : run.pendingAt slot ≠ [])
    (first : ∀ other : Slot, other.rank < slot.rank → run.pendingAt other = []) :
    run.step job = { run.awake with current := some slot }.become .delivering := by
  have next : run.ready.next? = some slot := by
    refine ReadyQueue.next?_eq_some_iff.mpr ⟨(sound.ready slot).mpr waits, fun other ready => ?_⟩
    by_contra before
    exact (sound.ready other).mp ready (first other (Nat.lt_of_not_le before))
  have free : run.awake.limitReached job = none := by
    rw [limitReached, unlimited]
    rfl
  have open_ : run.awake.eopReached = false := eop
  rw [step_of_running state, next, choose_some open_ free]

/-- **A round has been taken**: there is one more turn, for the message of a queue, which has ended
as its callback has. -/
structure Took (slot : Slot) (message : Message T) (turn : Turn T) (ending : Ending T)
    (run next : Run T η) : Prop where
  turns : next.turns = run.turns ++ [turn]
  place : turn.call.slot = slot
  isFor : turn.call.message = message
  sent : turn.sent = ending.sent
  isRefused : turn.isRefused = ending.isRefused
  result : turn.result = some ending.result
  flight : next.flight = none
  kept : next.kept = run.kept.set slot.stage ending.data
  memory : next.memory = ending.memory
  state : turn.isClean = true → next.state = .running

/-- **A message whose turn it is is handed to its processor**, and nothing else happens. -/
theorem exists_launched (sound : Sound job run) (unlimited : job.config.maxSteps = none)
    (state : run.state = .running) (eop : run.eopReached = false) {slot : Slot}
    {message : Message T} {rest : List (Message T)} (waits : run.pendingAt slot = message :: rest)
    (first : ∀ other : Slot, other.rank < slot.rank → run.pendingAt other = [])
    {processor : Processor T} (hasProcessor : job.pipeline.processor? slot.stage = some processor) :
    ∃ call : Call T, call.slot = slot ∧ call.message = message ∧
      Turn.ofPast (run.after job 2).past = { call } :: Turn.ofPast run.past ∧
      (run.after job 2).flight = some ⟨slot, processor.name, processor.handle message⟩ ∧
      (run.after job 2).kept = run.kept ∧ (run.after job 2).memory = run.memory := by
  obtain ⟨-, idle, -⟩ := sound.atRest state (.inr rfl)
  have nonempty : run.pendingAt slot ≠ [] := by
    rw [waits]
    exact List.cons_ne_nil _ _
  have chosen := step_of_first sound unlimited state eop nonempty first
  have soundChosen : Sound job (run.step job) := sound_step sound
  have ready : slot ∈ (run.step job).ready := by
    rw [chosen]
    exact (sound.ready slot).mpr nonempty
  obtain ⟨stage, same, other, left, found, isProcessor, popped⟩ := soundChosen.exists_popped ready
  obtain rfl := Option.some.inj (hasProcessor.symm.trans isProcessor)
  -- The message that is popped is the first of its queue.
  have foundBefore : run.stages[slot.stage]? = some stage := by
    rw [chosen] at found
    exact found
  obtain ⟨rfl, -⟩ := List.cons.inj (waits.symm.trans
    ((pendingAt_of_found foundBefore).trans (Stage.pending_of_pop? popped)))
  have delivering : (run.step job).state = .delivering := by rw [chosen]; rfl
  have stillIdle : (run.step job).flight = none := by rw [chosen]; exact idle
  have current : (run.step job).current = some slot := by rw [chosen]; rfl
  have started : run.after job 2 = (run.step job).awake.opened slot processor message left :=
    (step_of_chosen delivering stillIdle current).trans (start_eq found hasProcessor popped)
  have opened : ((run.step job).awake.opened slot processor message left).kept =
      (run.step job).awake.kept := kept_opened processor found popped
  refine ⟨left.callFor slot.stage message, ?_, rfl, ?_, ?_, ?_, ?_⟩
  · show (⟨slot.stage, message.kind⟩ : Slot) = slot
    rw [Stage.kind_of_pop? popped]
  · rw [started, chosen]
    rfl
  · rw [started]
    rfl
  · rw [started, opened, chosen]
    rfl
  · rw [started, chosen]
    rfl

/-- **A round**: a message whose turn it is is chosen, and its callback comes to its end. -/
theorem exists_round (sound : Sound job run) (accepting : job.handler.IsAccepting)
    (unlimited : job.config.maxSteps = none) (state : run.state = .running)
    (eop : run.eopReached = false) {slot : Slot} {message : Message T} {rest : List (Message T)}
    (waits : run.pendingAt slot = message :: rest)
    (first : ∀ other : Slot, other.rank < slot.rank → run.pendingAt other = [])
    {processor : Processor T} (hasProcessor : job.pipeline.processor? slot.stage = some processor)
    {data : StageData T.Value} (keeps : run.kept[slot.stage]? = some data)
    {holds : Ending T → Prop}
    (ends : (processor.handle message).Ends (slot.stage + 1 == job.pipeline.size) data run.memory
      holds) :
    ∃ n turn ending, holds ending ∧ Took slot message turn ending run (run.after job n) := by
  obtain ⟨call, isSlot, isMessage, turns, isFlight, kept, memory⟩ :=
    exists_launched sound unlimited state eop waits first hasProcessor
  rw [← kept] at keeps
  rw [← memory] at ends
  obtain ⟨n, ending, isEnd, done⟩ := exists_done (sound.after 2) accepting isFlight turns
    keeps (show Callback.Ends _ _ _ _ fun ending => holds (ending.behind [] false) by
      simpa only [Ending.behind_nil] using ends)
  rw [← after_add] at done
  refine ⟨2 + n, _, ending, isEnd, turns_eq_concat done.turns, isSlot, isMessage, rfl, rfl, rfl,
    done.flight, done.kept.trans (congrArg (List.set · _ _) kept), done.memory, fun clean => ?_⟩
  have result := Option.some.inj (Turn.result_eq_of_isClean clean)
  have notRefused : ending.isRefused = false := by
    simpa using (Bool.and_eq_true_iff.mp clean).1
  exact done.state notRefused result

end Run

end Relay
