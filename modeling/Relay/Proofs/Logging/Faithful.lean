import Relay.Proofs.Logging.Account
import Relay.Proofs.Privacy.Frame
import Relay.Proofs.Reporting.Interference
import Relay.Proofs.Sending.Polls

/-!
# Logs are faithful

The log of a run is the account of it, at any time and so at its end. Along with it goes that a
stage knows whether it has ended: it has, if it has sent the end of the pipe in one of its turns, so
that a reply is warned about if and only if it is late.

* `Run.Accounted` is the invariant, `Run.accounted_of_move` its step lemma, and
  `Run.Reached.accounted` its run lemma.
* `Run.log_accounts_for_run` is the result, for sinks that write nothing into the log themselves.
-/

namespace Relay

variable {T : Traffic} {η : Type}

/-- Of what a stage sends, the ends of the pipe all go to its outbox. -/
theorem Stage.countP_isEop_toNeighbours (stage : Stage T) (sent : List (Outgoing T)) :
    (stage.toNeighbours sent).countP Outgoing.isEop = sent.countP Outgoing.isEop := by
  unfold toNeighbours
  split
  · rw [List.countP_filter]
    refine List.countP_congr fun message _ => ?_
    rcases message with _ | _ | _ <;> simp [Outgoing.isEop, Outgoing.item?, Reply.item?]
  · rfl

/-! ## (1) The invariant -/

namespace Run

variable {job : Job T η} {run next : Run T η}

/-- **A run that is accounted for** by its log. -/
structure Accounted (job : Job T η) (run : Run T η) : Prop where
  /-- Stages know whether they have sent the end of the pipe. -/
  eop : ∀ {index stage}, run.stages[index]? = some stage → stage.eop = Turn.hasEnded index run.turns
  /-- Nothing has been called before the run is announced. -/
  fresh : run.state = .seeded → run.turns = []
  log : run.debugLog = (if run.state = .seeded then [] else [job.spanLine]) ++
    job.account [] run.turns ++ (run.outcome.map (job.lastLine run.steps)).toList

/-- Before a callback has ended, as many steps have been taken as there were turns before its. -/
theorem Orderly.steps_of_engaged (orderly : Orderly run) {flight : Flight T} {stage : Stage T}
    {turn : Turn T} {earlier : List (Turn T)}
    (engaged : run.Engaged job flight stage turn earlier) : run.steps = earlier.length := by
  have ended : earlier.countP (·.result.isSome) = earlier.length := by
    refine List.countP_eq_length.mpr fun other member => ?_
    have clean := orderly.earlier other (by rw [engaged.turns]; exact member)
    rw [Turn.result_eq_of_isClean clean]
    rfl
  rw [orderly.steps, engaged.turns, List.countP_cons, engaged.result, ended]
  simp

/-- A poll acts on the stage of the callback in flight, and warns about what is late. -/
theorem exists_warned (sound : Sound job run) {flight : Flight T} {stage : Stage T}
    {status : Callback.Status T Unit} {scene : Callback.Scene T}
    (polled : run.Polled flight stage status scene) :
    ∃ turn earlier acts, run.Engaged job flight stage turn earlier ∧
      Callback.Scene.Warned ⟨stage, run.memory, run.past⟩ scene acts := by
  obtain ⟨turn, earlier, engaged⟩ := exists_engaged sound polled
  obtain ⟨acts, warned, -, -⟩ := flight.callback.made_poll ⟨stage, run.memory, run.past⟩
  rw [polled.polled] at warned
  exact ⟨turn, earlier, acts, engaged, warned⟩

/-- A run is accounted for before it begins. -/
theorem accounted_seed (job : Job T η) (received : η) (memory : T.Memory) :
    Accounted job (seed job received memory) where
  eop found := (of_getElem?_seed found).2.1
  fresh _ := rfl
  log := rfl

namespace Accounted

/-- The log of a run under way. -/
theorem log_of_unfinished (accounted : Accounted job run) (announced : run.state ≠ .seeded)
    (outcome : run.outcome = none) :
    run.debugLog = job.spanLine :: job.account [] run.turns := by
  rw [accounted.log, if_neg announced, outcome]
  simp

/-- A run under way is accounted for if its log says so. -/
theorem of_unfinished
    (eop : ∀ {index stage}, run.stages[index]? = some stage →
      stage.eop = Turn.hasEnded index run.turns)
    (announced : run.state ≠ .seeded) (outcome : run.outcome = none)
    (log : run.debugLog = job.spanLine :: job.account [] run.turns) : Accounted job run where
  eop := eop
  fresh state := absurd state announced
  log := by
    rw [log, if_neg announced, outcome]
    simp

/-- Other stages make no difference, if they know the same about their ends. -/
theorem of_stages (accounted : Accounted job run) {stages : List (Stage T)}
    (same : ∀ (index : Nat) (stage : Stage T), stages[index]? = some stage →
      ∃ old, run.stages[index]? = some old ∧ stage.eop = old.eop) :
    Accounted job { run with stages } where
  eop found := by
    obtain ⟨old, isOld, eop⟩ := same _ _ found
    exact eop.trans (accounted.eop isOld)
  fresh := accounted.fresh
  log := accounted.log

/-! ## (2) Moves -/

/-- **The start of a run** opens the log. -/
theorem announce (silent : job.sink.IsSilent) (accounted : Accounted job run)
    (state : run.state = .seeded) (outcome : run.outcome = none) :
    Accounted job ((run.announce job).become .running) := by
  have nothing := accounted.fresh state
  obtain ⟨reports, announced⟩ := run.announce_eq job
  have turns : ((run.announce job).become .running).turns = [] := by
    rw [← nothing, announced, become_eq]
    exact congrArg List.reverse ((Turn.ofPast_reports _ _).trans (Turn.ofPast_reports _ _))
  have stages : ((run.announce job).become .running).stages = run.stages := by
    rw [announced]
    rfl
  have ended : ((run.announce job).become .running).outcome = none := by
    rw [announced]
    exact outcome
  refine of_unfinished (fun found => ?_) RunState.noConfusion ended ?_
  · rw [turns, ← nothing]
    exact accounted.eop (stages ▸ found)
  · rw [debugLog_become, debugLog_announce silent, accounted.log, if_pos state, outcome, nothing,
      turns]
    rfl

/-- **The choice of a message** does not show. -/
theorem choose (accounted : Accounted job run) (state : run.state = .running)
    (outcome : run.outcome = none) (slot : Slot) :
    Accounted job ({ run with current := some slot }.become .delivering) := by
  have turns : ({ run with current := some slot }.become .delivering).turns = run.turns :=
    congrArg List.reverse (Turn.ofPast_reports (.ofRecord _) run.past)
  refine of_unfinished (fun found => ?_) RunState.noConfusion outcome ?_
  · rw [turns]
    exact accounted.eop found
  · rw [debugLog_become, turns]
    exact accounted.log_of_unfinished (by simp [state]) outcome

/-- **Success** closes the log. -/
theorem succeed (silent : job.sink.IsSilent) (accounted : Accounted job run)
    (state : run.state = .running) (outcome : run.outcome = none) :
    Accounted job (run.succeed job) := by
  obtain ⟨reports, succeeded⟩ := run.succeed_eq job
  have turns : (run.succeed job).turns = run.turns := by
    rw [succeeded]
    exact congrArg List.reverse (Turn.ofPast_reports reports run.past)
  refine ⟨fun found => ?_, fun seeded => ?_, ?_⟩
  · rw [turns]
    rw [succeeded] at found
    exact accounted.eop found
  · rw [succeeded] at seeded
    cases seeded
  · rw [debugLog_succeed silent, turns,
      accounted.log_of_unfinished (by simp [state]) outcome, succeeded]
    rfl

/-- **Failure** closes the log. -/
theorem fail (silent : job.sink.IsSilent) (accounted : Accounted job run)
    (announced : run.state ≠ .seeded) (outcome : run.outcome = none) (error : RunError) :
    Accounted job (run.fail job error) := by
  have turns : (run.fail job error).turns = run.turns :=
    congrArg List.reverse (ofPast_fail job run error)
  have failed := state_fail job run error
  refine ⟨fun found => ?_, fun seeded => ?_, ?_⟩
  · rw [turns]
    rw [stages_fail] at found
    exact accounted.eop found
  · cases failed.symm.trans seeded
  · rw [debugLog_fail silent, turns, accounted.log_of_unfinished announced outcome, failed,
      outcome_fail, steps_fail]
    rfl

/-- **The start of a callback** opens its turn in the log. -/
theorem opened (accounted : Accounted job run) {slot : Slot} {stage rest : Stage T}
    {processor : Processor T} {message : Message T} (state : run.state = .delivering)
    (outcome : run.outcome = none) (found : run.stages[slot.stage]? = some stage)
    (hasProcessor : job.pipeline.processor? slot.stage = some processor)
    (popped : stage.pop? slot.kind = some (message, rest)) :
    Accounted job (run.opened slot processor message rest) := by
  have turns : (run.opened slot processor message rest).turns =
      run.turns ++ [{ call := rest.callFor slot.stage message }] :=
    List.reverse_cons
  have name : job.processorName slot.stage = processor.name := by
    simp [Job.processorName, hasProcessor]
  refine of_unfinished (fun {index other} isThere => ?_) (by simp [Run.opened, state]) outcome ?_
  · rw [turns, Turn.hasEnded_concat]
    simp only [List.any_nil, Bool.and_false, Bool.or_false]
    rw [stages_opened processor message rest found] at isThere
    rcases getElem?_set_cases isThere with ⟨rfl, rfl⟩ | ⟨-, before⟩
    · have known := accounted.eop found
      exact (congrArg Stage.eop (Stage.rest_of_pop? popped)).trans known
    · exact accounted.eop before
  · rw [debugLog_opened, accounted.log_of_unfinished (by simp [state]) outcome, turns,
      Job.account_concat, List.nil_append, Turn.lines_called, List.cons_append]
    show _ :: (_ ++ _) = _ :: (_ ++ [Turn.dispatchLine (job.processorName slot.stage) _])
    rw [name]
    cases message <;> rfl

section Polling

variable {flight : Flight T} {stage : Stage T} {status : Callback.Status T Unit}
  {scene : Callback.Scene T} {turn : Turn T} {earlier : List (Turn T)} {acts : List (Entry T)}

/-- **A poll** adds to the turn of its callback in the log. -/
theorem afterPoll (accounted : Accounted job run) (wired : Wired job run)
    (polled : run.Polled flight stage status scene)
    (engaged : run.Engaged job flight stage turn earlier)
    (warned : Callback.Scene.Warned ⟨stage, run.memory, run.past⟩ scene acts) :
    Accounted job (run.afterPoll job flight.slot.stage scene) := by
  have still := engaged_afterPoll job engaged warned.toActed
  have before := turns_eq_concat engaged.turns
  have after := turns_eq_concat still.turns
  have ended : stage.eop = Turn.hasEnded turn.call.stage (earlier.reverse ++ [turn]) := by
    rw [← before, engaged.place]
    exact accounted.eop engaged.found
  refine of_unfinished (fun {index other} isThere => ?_) (by simp [Run.afterPoll, polled.state])
    polled.outcome ?_
  · rw [after]
    rcases getElem?_set_cases isThere with ⟨rfl, rfl⟩ | ⟨elsewhere, isOther⟩
    · -- The stage has ended before, or in this poll.
      have eop : scene.stage.clearCaller.eop =
          (stage.eop || (Journal.sent acts).any Outgoing.isEop) := by rw [warned.stage]; rfl
      rw [eop, ended, Turn.hasEnded_concat, Turn.hasEnded_concat, ← engaged.place]
      simp [Turn.extend, Bool.or_assoc]
    · have foreign : (turn.call.stage == index) = false := by
        simp [engaged.place, Ne.symm elsewhere]
      have extended : (turn.extend acts).call.stage = turn.call.stage := rfl
      rw [accounted.eop isOther, before, Turn.hasEnded_concat, Turn.hasEnded_concat, extended,
        foreign]
      rfl
  · -- The new warnings join those that have been told of the turn.
    rw [debugLog_afterPoll job _ warned, after, Job.account_concat,
      accounted.log_of_unfinished (by simp [polled.state]) polled.outcome, before,
      Job.account_concat, Turn.lines_extend _ _ engaged.result, List.nil_append, ← ended]
    have place := wired.index_eq engaged.found
    obtain ⟨processor, hasProcessor, blank⟩ := wired.exists_processor engaged.found
    have name : stage.processor = job.processorName turn.call.stage := by
      rw [engaged.place, Job.processorName, hasProcessor]
      exact congrArg Stage.processor blank
    have lines : Log.debugLines (stage.warnings (Journal.sent acts)) =
        (Outgoing.late stage.eop (Journal.sent acts)).map
          (Turn.lateLine (job.processorName turn.call.stage) turn.call.stage) := by
      rw [Stage.warnings, place, name, ← engaged.place]
      exact Log.debugLines_map fun _ => rfl
    rw [lines, List.cons_append, List.append_assoc]
    rfl

/-- **The end of a callback** does not show, unless it has ended well. -/
theorem settled (accounted : Accounted job run) (announced : run.state ≠ .seeded)
    (outcome : run.outcome = none) (turns : Turn.ofPast run.past = turn :: earlier)
    (underWay : turn.result = none) (flight : Flight T) (result : Except Failure Unit)
    (unclean : (turn.ended result).isClean = false) :
    Accounted job (run.settled flight result) := by
  have before := turns_eq_concat turns
  have after := turns_eq_concat (ofPast_settled turns flight result)
  have noEops : (turn.ended result).eopLines earlier.reverse = [] := by
    simp [Turn.eopLines, unclean]
  refine of_unfinished (fun {index other} isThere => ?_) announced outcome ?_
  · rw [after, Turn.hasEnded_concat]
    have known := accounted.eop isThere
    rw [before, Turn.hasEnded_concat] at known
    exact known
  · rw [debugLog_settled, accounted.log_of_unfinished announced outcome, before, after,
      Job.account_concat, Job.account_concat, List.nil_append, Turn.lines_ended _ _ underWay,
      noEops, List.append_nil]
    rfl

/-- **The end of a callback that has ended well** shows if the pipe has ended with it. -/
theorem finish (accounted : Accounted job (run.afterPoll job flight.slot.stage scene))
    (orderly : Orderly run) (sound : Sound job run)
    (polled : run.Polled flight stage (.finished (.ok ())) scene)
    (engaged : run.Engaged job flight stage turn earlier)
    (acted : Callback.Scene.Acted ⟨stage, run.memory, run.past⟩ scene acts)
    (violation : scene.stage.violation = false) :
    Accounted job (((run.afterPoll job flight.slot.stage scene).settled flight (.ok ())).route job
      flight.slot.stage) := by
  have still := engaged_afterPoll job engaged acted
  obtain ⟨reports, finished⟩ := finish_eq sound.toWired engaged acted
  have past : Turn.ofPast (((run.afterPoll job flight.slot.stage scene).settled flight
      (.ok ())).route job flight.slot.stage).past =
        (turn.extend acts).ended (.ok ()) :: earlier :=
    (congrArg (Turn.ofPast ·.past) finished).trans ((Turn.ofPast_reports reports _).trans
      (ofPast_afterPoll_settled job engaged acted (.ok ())))
  have before := turns_eq_concat still.turns
  have after := turns_eq_concat past
  have goesOn := congrArg Run.state finished
  have outcome := congrArg Run.outcome finished
  refine of_unfinished (fun {index other} isThere => ?_)
    (by rw [goesOn]; exact RunState.noConfusion) (outcome.trans polled.outcome) ?_
  · -- Routing leaves the ends of stages as they are.
    obtain ⟨old, isOld, eop⟩ : ∃ old, (run.afterPoll job flight.slot.stage scene).stages[index]? =
        some old ∧ other.eop = old.eop := by
      rw [finished] at isThere
      obtain ⟨closed, isClosed, rfl⟩ := Option.map_eq_some_iff.mp
        ((List.getElem?_mapIdx ..).symm.trans isThere)
      rcases getElem?_set_cases isClosed with ⟨rfl, rfl⟩ | ⟨elsewhere, isOther⟩
      · exact ⟨_, still.found, rfl⟩
      · exact ⟨closed, (List.getElem?_set_ne (Ne.symm elsewhere)).trans isOther, rfl⟩
    have known := accounted.eop isOld
    rw [before, Turn.hasEnded_concat] at known
    rw [eop, known, after, Turn.hasEnded_concat]
    rfl
  · have clean := Turn.isClean_ended_ok ((isRefused_eq_violation engaged acted).trans violation)
    have log := accounted.log_of_unfinished (by simp [Run.afterPoll, polled.state]) polled.outcome
    have isSettled := getElem?_settled job scene (.ok ()) engaged.found
    have eops : ((turn.extend acts).ended (.ok ())).eopLines earlier.reverse =
        if flight.slot.stage = 0 then
          Log.debugLines (List.replicate (scene.stage.clearCaller.outbox.countP Outgoing.isEop)
            (.eopReached (run.steps + 1)))
        else [] := by
      have place : ((turn.extend acts).ended (.ok ())).call.stage = flight.slot.stage :=
        engaged.place
      have shows : Log.debugLines [.eopReached (earlier.length + 1)] =
          [Turn.eopLine (earlier.length + 1)] := rfl
      rw [Turn.eopLines, clean, place, still.outbox, Stage.countP_isEop_toNeighbours,
        orderly.steps_of_engaged engaged, List.length_reverse, Log.debugLines_replicate shows]
      simp only [true_and]
      rfl
    rw [debugLog_route isSettled goesOn, debugLog_settled, log, before, after,
      Job.account_concat, Job.account_concat, Turn.lines_ended _ _ still.result, List.nil_append,
      eops, List.cons_append, List.append_assoc]
    rfl

end Polling

end Accounted

/-- **Every move is accounted for.** -/
theorem accounted_of_move (silent : job.sink.IsSilent) (sound : Sound job run)
    (orderly : Orderly run) (accounted : Accounted job run) (move : Move job run next) :
    Accounted job next := by
  -- In the last five cases the callback in flight is polled before anything else.
  cases move with
  | announce state => exact accounted.announce silent state (sound.atRest state (.inl rfl)).1
  | succeed state => exact accounted.succeed silent state (sound.atRest state (.inr rfl)).1
  | starve state | exceed _ _ state =>
    exact accounted.fail silent (by simp [state]) (sound.atRest state (.inr rfl)).1 _
  | choose slot state => exact accounted.choose state (sound.atRest state (.inr rfl)).1 slot
  | start slot stage processor message rest state outcome _ _ found hasProcessor popped =>
    exact accounted.opened state outcome found hasProcessor popped
  | refuse flight stage status scene failure polled =>
    obtain ⟨turn, earlier, acts, engaged, warned⟩ := exists_warned sound polled
    exact (accounted.afterPoll sound.toWired polled engaged warned).fail silent
      (by simp [afterPoll, polled.state]) polled.outcome _
  | wait flight stage scene rest polled =>
    obtain ⟨turn, earlier, acts, engaged, warned⟩ := exists_warned sound polled
    have after := accounted.afterPoll sound.toWired polled engaged warned
    exact ⟨after.eop, after.fresh, after.log⟩
  | overreach flight stage scene result polled _ violation =>
    obtain ⟨turn, earlier, acts, engaged, warned⟩ := exists_warned sound polled
    have still := engaged_afterPoll job engaged warned.toActed
    have announced : (run.afterPoll job flight.slot.stage scene).state ≠ .seeded := by
      simp [afterPoll, polled.state]
    have isRefused := (isRefused_eq_violation engaged warned.toActed).trans violation
    have settled := (accounted.afterPoll sound.toWired polled engaged warned).settled announced
      polled.outcome still.turns still.result flight result (Turn.isClean_of_isRefused isRefused)
    refine (settled.of_stages fun index stage found => ?_).fail silent announced polled.outcome _
    -- To forget the attempt does not bring the end of the pipe back.
    obtain ⟨old, isOld, rfl⟩ :=
      Option.map_eq_some_iff.mp ((List.getElem?_modify ..).symm.trans found)
    refine ⟨old, isOld, ?_⟩
    split <;> rfl
  | fail flight stage scene failure polled =>
    obtain ⟨turn, earlier, acts, engaged, warned⟩ := exists_warned sound polled
    have still := engaged_afterPoll job engaged warned.toActed
    have announced : (run.afterPoll job flight.slot.stage scene).state ≠ .seeded := by
      simp [afterPoll, polled.state]
    have settled := (accounted.afterPoll sound.toWired polled engaged warned).settled announced
      polled.outcome still.turns still.result flight (.error failure)
      (Turn.isClean_ended_error _ failure)
    exact settled.fail silent announced polled.outcome _
  | finish flight stage scene polled _ violation =>
    obtain ⟨turn, earlier, acts, engaged, warned⟩ := exists_warned sound polled
    exact (accounted.afterPoll sound.toWired polled engaged warned).finish orderly sound polled
      engaged warned.toActed violation
  | stop => exact accounted

/-- **A run is accounted for in every state that it comes to**, whatever is remembered. -/
theorem Reached.accounted (silent : job.sink.IsSilent) (reached : Reached job run) :
    Orderly run ∧ Accounted job run := by
  induction reached with
  | seed received memory =>
    exact ⟨orderly_seed job received memory, accounted_seed job received memory⟩
  | @step run before ih =>
    obtain ⟨orderly, accounted⟩ := ih
    have awake : Orderly run.awake := ⟨orderly.earlier, orderly.latest, orderly.steps⟩
    have told : Accounted job run.awake := ⟨accounted.eop, accounted.fresh, accounted.log⟩
    have move := move_step before.sound
    exact ⟨orderly_of_move before.sound.awake awake move,
      accounted_of_move silent before.sound.awake awake told move⟩
  | remember _ memory ih =>
    obtain ⟨orderly, accounted⟩ := ih
    exact ⟨⟨orderly.earlier, orderly.latest, orderly.steps⟩,
      ⟨accounted.eop, accounted.fresh, accounted.log⟩⟩

/-! ## (3) Finished runs -/

/-- **The log of a finished run is a faithful account of it**, if the sink writes nothing into the
log. Behind the span of the run stand the lines of its turns, of which there is one for each call,
and then the outcome. -/
theorem log_accounts_for_run (silent : job.sink.IsSilent) (reached : Reached job run)
    {result : Except RunError RunSummary} (finished : run.outcome = some result) :
    run.debugLog =
        job.spanLine :: job.account [] run.turns ++ [job.lastLine run.steps result] ∧
      run.turns.map (·.call) = Journal.calls run.journal := by
  refine ⟨?_, run.map_call_turns⟩
  have notSeeded : run.state ≠ .seeded := fun state => by
    cases (reached.sound.atRest state (.inl rfl)).1.symm.trans finished
  rw [(reached.accounted silent).2.log, if_neg notSeeded, finished]
  rfl

/-- A processor that goes on sending behind its end of the pipe. -/
def talkativeProcessor : Processor numbers where
  name := "front"
  onRequest _ := .sendReply .eop (.sendItems [1, 2] .sendEop)

/-- **A job for a talkative stage.** -/
def talkative : Job numbers (List Nat) where
  pipeline :=
    { name := "talkative"
      processors := [talkativeProcessor]
      metadata := {}
      name_not_blank := by decide
      processors_ne_nil := by simp }
  request := (0 : Nat)
  handler := .collecting
  runId := .nil
  startedAt := ⟨⟨2024, 1, 1⟩, 0, 0⟩
  durationMs := 0

/-- Its log tells of a single call, of three late replies, and of two ends of the pipe. -/
theorem talkative_log :
    talkative.sink.IsSilent ∧ ∃ run, Reached talkative run ∧
      ∃ summary, run.outcome = some (.ok summary) ∧
        run.debugLog.map (fun line => (line.level, line.wording)) =
          [(.info, "pipeline.run"), (.debug, "Dispatching request"),
            (.warn, "Response sent after end-of-pipe"), (.warn, "Response sent after end-of-pipe"),
            (.warn, "Response sent after end-of-pipe"),
            (.debug, "End of pipe reached the caller"), (.debug, "End of pipe reached the caller"),
            (.info, "Pipeline run completed")] := by
  have silent : talkative.sink.IsSilent := fun _ => rfl
  have start : Reached talkative (seed talkative [] ()) := @Reached.seed _ _ talkative [] ()
  have reached : Reached talkative ((seed talkative [] ()).after talkative 5) := start.after 5
  obtain ⟨summary, finished⟩ :
      ∃ summary, ((seed talkative [] ()).after talkative 5).outcome = some (.ok summary) := ⟨_, rfl⟩
  refine ⟨silent, _, reached, summary, finished, ?_⟩
  rw [(log_accounts_for_run silent reached finished).1]
  rfl

end Run

end Relay
