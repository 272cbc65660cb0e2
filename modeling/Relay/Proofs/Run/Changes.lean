import Relay.Proofs.Run.Soundness

/-!
# What a step changes

For whoever counts messages a step does one of three things: nothing; it takes one message from its
queue and starts a callback with it; or it lets the callback under way act, and offers what has been
sent to the caller. When a callback ends well, what it has sent to its neighbours joins their
queues, and only then.

* `Run.change_step` says so for every step of a sound run.
-/

namespace Relay

variable {T : Traffic} {η : Type}

/-! ## (1) Changes -/

/-- **The items that a stage sends to the caller**; only the first stage does so. -/
def Outgoing.forCaller (stage : Nat) (sent : List (Outgoing T)) : List T.Response :=
  if stage = 0 then sent.filterMap item? else []

namespace Run

/-- **The caller's handler** has not been asked. -/
structure Unasked (run next : Run T η) : Prop where
  verdicts : next.verdicts = run.verdicts
  received : next.received = run.received
  delivered : next.responsesDelivered = run.responsesDelivered

/-- **The caller's handler** has been offered items, up to the first that it refuses. -/
structure Asked (job : Job T η) (items : List T.Response) (run next : Run T η) : Prop where
  verdicts : next.verdicts = run.verdicts ++ (job.handler.offer run.received items).2.1
  received : next.received = (job.handler.offer run.received items).1
  delivered : next.responsesDelivered =
    run.responsesDelivered + (job.handler.offer run.received items).2.1.countP (·.2.isOk)
  refused : ∀ failure, (job.handler.offer run.received items).2.2 = some failure →
    next.outcome = some (.error (.handler failure))

/-- **What a step changes.** -/
inductive Change (job : Job T η) (run next : Run T η) : Prop where
  /-- No callback has been started, and none has acted. -/
  | still (turns : Turn.ofPast next.past = Turn.ofPast run.past)
      (pending : ∀ slot, next.pendingAt slot = run.pendingAt slot)
      (caller : run.Unasked next)
  /-- A callback has been started with a message that has waited. -/
  | opened (slot : Slot) (call : Call T)
      (turns : Turn.ofPast next.past = { call } :: Turn.ofPast run.past)
      (place : call.stage = slot.stage) (kind : call.message.kind = slot.kind)
      (pending : ∀ other, run.pendingAt other =
        (if other = slot then [call.message] else []) ++ next.pendingAt other)
      (caller : run.Unasked next) (outcome : next.outcome = none)
  /-- The callback under way has acted, and may have ended. -/
  | acted (turn late : Turn T) (earlier : List (Turn T)) (sent : List (Outgoing T))
      (before : Turn.ofPast run.past = turn :: earlier)
      (turns : Turn.ofPast next.past = late :: earlier)
      (underWay : turn.result = none) (unfinished : run.outcome = none)
      (call : late.call = turn.call) (more : late.sent = turn.sent ++ sent)
      (pending : ∀ slot, slot.stage < job.pipeline.size → next.pendingAt slot =
        run.pendingAt slot ++
          if late.isClean then Outgoing.arrivals late.call.stage slot late.sent else [])
      (caller : run.Asked job (Outgoing.forCaller turn.call.stage sent) next)
      (outcome : late.isClean = true → next.outcome = none)

variable {job : Job T η} {run : Run T η}

/-! ## (2) Ends of runs -/

/-- A failure is only reported. -/
theorem ofPast_fail (job : Job T η) (run : Run T η) (error : RunError) :
    Turn.ofPast (run.fail job error).past = Turn.ofPast run.past := by
  obtain ⟨reports, failed⟩ := run.fail_eq job error
  rw [failed]
  exact Turn.ofPast_reports reports run.past

/-- What still waits when a run fails stays where it is. -/
theorem pendingAt_fail (job : Job T η) (run : Run T η) (error : RunError) (slot : Slot) :
    (run.fail job error).pendingAt slot = run.pendingAt slot := by
  obtain ⟨reports, failed⟩ := run.fail_eq job error
  rw [failed]
  rfl

/-- A run that fails is failed. -/
theorem state_fail (job : Job T η) (run : Run T η) (error : RunError) :
    (run.fail job error).state = .failed := by
  obtain ⟨reports, failed⟩ := run.fail_eq job error
  rw [failed]

/-- The error that a run fails with is its outcome. -/
theorem outcome_fail (job : Job T η) (run : Run T η) (error : RunError) :
    (run.fail job error).outcome = some (.error error) := by
  obtain ⟨reports, failed⟩ := run.fail_eq job error
  rw [failed]

/-- The caller's handler is not asked about a failure. -/
theorem unasked_fail (job : Job T η) (run : Run T η) (error : RunError) :
    run.Unasked (run.fail job error) := by
  obtain ⟨reports, failed⟩ := run.fail_eq job error
  rw [failed]
  exact ⟨verdicts_reporting run reports, rfl, rfl⟩

/-- Nor is it asked about the end of a callback. -/
theorem unasked_settled (run : Run T η) (flight : Flight T) (result : Except Failure Unit) :
    run.Unasked (run.settled flight result) := by
  refine ⟨?_, rfl, rfl⟩
  rw [verdicts, settled, log, journal, List.reverse_cons, Journal.verdicts, List.filterMap_append]
  exact List.append_nil _

/-- Nor about the start of one. -/
theorem unasked_opened (run : Run T η) (slot : Slot) (processor : Processor T) (message : Message T)
    (rest : Stage T) : run.Unasked (run.opened slot processor message rest) := by
  refine ⟨?_, rfl, rfl⟩
  simp [verdicts, journal, opened, Journal.verdicts, Entry.verdict?]

/-- Not being asked twice is not being asked. -/
theorem Unasked.trans {first second third : Run T η} (early : first.Unasked second)
    (late : second.Unasked third) : first.Unasked third where
  verdicts := late.verdicts.trans early.verdicts
  received := late.received.trans early.received
  delivered := late.delivered.trans early.delivered

/-! ## (3) Polls -/

section Polling

variable {flight : Flight T} {stage : Stage T} {scene : Callback.Scene T} {turn : Turn T}
  {earlier : List (Turn T)} {acts : List (Entry T)}

/-- **What a poll leaves for the caller** are the items that the first stage has sent in it. -/
theorem callerQueue_of_acted (wired : Wired job run) {index : Nat}
    (found : run.stages[index]? = some stage)
    (acted : Callback.Scene.Acted ⟨stage, run.memory, run.past⟩ scene acts) :
    scene.stage.callerQueue = Outgoing.forCaller index (Journal.sent acts) := by
  have caller : scene.stage.caller =
      stage.caller.map (· ++ stage.toCaller (Journal.sent acts)) := by rw [acted.stage]; rfl
  rw [Stage.callerQueue, caller, wired.caller found, Stage.toCaller, wired.feedsCaller_eq found,
    Outgoing.forCaller]
  by_cases first : index = 0 <;> simp [first]

/-- The verdicts after a poll are those from before and those on the items of the poll. -/
theorem verdicts_afterPoll (job : Job T η) (index : Nat)
    (acted : Callback.Scene.Acted ⟨stage, run.memory, run.past⟩ scene acts) :
    (run.afterPoll job index scene).verdicts =
      run.verdicts ++ (job.handler.offer run.received scene.stage.callerQueue).2.1 := by
  have offered : (run.afterPoll job index scene).verdicts =
      Journal.verdicts scene.past.reverse ++
        (job.handler.offer run.received scene.stage.callerQueue).2.1 :=
    Journal.verdicts_offers _ scene.past
  rw [offered, acted.past, Journal.verdicts_acts run.past acted.areActs]
  rfl

/-- **A poll offers to the caller's handler** what the first stage has sent in it, and nothing else.
-/
theorem asked_afterPoll (wired : Wired job run)
    (engaged : run.Engaged job flight stage turn earlier)
    (acted : Callback.Scene.Acted ⟨stage, run.memory, run.past⟩ scene acts) {next : Run T η}
    (unasked : (run.afterPoll job flight.slot.stage scene).Unasked next)
    (refused : ∀ failure, (job.handler.offer run.received scene.stage.callerQueue).2.2 =
      some failure → next.outcome = some (.error (.handler failure))) :
    run.Asked job (Outgoing.forCaller turn.call.stage (Journal.sent acts)) next := by
  have items := callerQueue_of_acted wired engaged.found acted
  rw [engaged.place, ← items]
  refine ⟨?_, unasked.received, unasked.delivered, refused⟩
  rw [unasked.verdicts, verdicts_afterPoll job _ acted]

/-- **A poll after which the callback is not done well** changes no queue. -/
theorem change_of_unclean (sound : Sound job run) (unfinished : run.outcome = none)
    (engaged : run.Engaged job flight stage turn earlier)
    (acted : Callback.Scene.Acted ⟨stage, run.memory, run.past⟩ scene acts) {next : Run T η}
    (late : Turn T) (call : late.call = turn.call)
    (more : late.sent = turn.sent ++ Journal.sent acts) (unclean : late.isClean = false)
    (turns : Turn.ofPast next.past = late :: earlier)
    (pending : ∀ slot, next.pendingAt slot =
      (run.afterPoll job flight.slot.stage scene).pendingAt slot)
    (unasked : (run.afterPoll job flight.slot.stage scene).Unasked next)
    (refused : ∀ failure, (job.handler.offer run.received scene.stage.callerQueue).2.2 =
      some failure → next.outcome = some (.error (.handler failure))) :
    Change job run next := by
  refine .acted turn late earlier (Journal.sent acts) engaged.turns turns engaged.result
    unfinished call more ?_ (asked_afterPoll sound.toWired engaged acted unasked refused) ?_
  · intro slot _
    rw [pending, pendingAt_afterPoll job engaged.found acted, unclean]
    simp
  · intro clean
    cases unclean.symm.trans clean

/-- The turn of a callback that has come to its end. -/
theorem ofPast_settled (turns : Turn.ofPast run.past = turn :: earlier) (flight : Flight T)
    (result : Except Failure Unit) :
    Turn.ofPast (run.settled flight result).past = turn.ended result :: earlier := by
  rw [settled, log, Turn.ofPast_cons, turns]
  rfl

/-- The turn of a callback that has come to its end in a poll. -/
theorem ofPast_afterPoll_settled (job : Job T η)
    (engaged : run.Engaged job flight stage turn earlier)
    (acted : Callback.Scene.Acted ⟨stage, run.memory, run.past⟩ scene acts)
    (result : Except Failure Unit) :
    Turn.ofPast ((run.afterPoll job flight.slot.stage scene).settled flight result).past =
      (turn.extend acts).ended result :: earlier :=
  ofPast_settled (engaged_afterPoll job engaged acted).turns flight result

/-- A callback has violated the boundary exactly if a request of its turn was refused. -/
theorem isRefused_eq_violation (engaged : run.Engaged job flight stage turn earlier)
    (acted : Callback.Scene.Acted ⟨stage, run.memory, run.past⟩ scene acts) :
    (turn.extend acts).isRefused =
      scene.stage.violation := by
  have violation : scene.stage.violation =
      (stage.violation || Journal.isRefused acts) := by rw [acted.stage]; rfl
  rw [violation, engaged.violation]
  rfl

end Polling

end Run

/-! ## (4) Steps -/

/-- What the first stage replies arrives nowhere. -/
theorem Outgoing.arrivals_filter (slot : Slot) (sent : List (Outgoing T)) :
    Outgoing.arrivals 0 slot (sent.filter (·.item?.isNone)) = Outgoing.arrivals 0 slot sent := by
  rw [arrivals, arrivals, List.filterMap_filter]
  refine List.filterMap_congr fun message _ => ?_
  cases message with
  | request request => rfl
  | response reply => simp [destination?]

namespace Run

variable {job : Job T η} {run : Run T η}

/-- **A callback that ends well** sends what it has sent on its way. -/
theorem change_finish {flight : Flight T} {stage : Stage T} {scene : Callback.Scene T}
    (sound : Sound job run) (polled : run.Polled flight stage (.finished (.ok ())) scene)
    (accepted : (job.handler.offer run.received scene.stage.callerQueue).2.2 = none)
    (violation : scene.stage.violation = false) :
    Change job run (((run.afterPoll job flight.slot.stage scene).settled flight (.ok ())).route job
      flight.slot.stage) := by
  obtain ⟨turn, earlier, acts, engaged, acted⟩ := exists_acted sound polled
  obtain ⟨reports, finished⟩ := finish_eq sound.toWired engaged acted
  have closedTurn := ofPast_afterPoll_settled job engaged acted (.ok ())
  have still := engaged_afterPoll job engaged acted
  have feeds : scene.stage.clearCaller.feedsCaller = (flight.slot.stage == 0) :=
    (wired_afterPoll sound.toWired polled.found acted).feedsCaller_eq still.found
  rw [finished]
  refine .acted turn _ earlier (Journal.sent acts) engaged.turns
    ((Turn.ofPast_reports reports _).trans closedTurn) engaged.result polled.outcome rfl rfl
    ?pending (asked_afterPoll sound.toWired engaged acted ?unasked ?refused)
    fun _ => polled.outcome
  case unasked =>
    have settled := unasked_settled (run.afterPoll job flight.slot.stage scene) flight (.ok ())
    exact settled.trans ⟨verdicts_reporting _ reports, rfl, rfl⟩
  case refused =>
    intro failure refused
    cases accepted.symm.trans refused
  case pending =>
    intro slot within
    have clean := Turn.isClean_ended_ok ((isRefused_eq_violation engaged acted).trans violation)
    have within : slot.stage < (run.closed job flight scene).stages.length := by
      rw [(wired_closed sound.toWired engaged.found acted).length_eq]
      exact within
    have routed := pendingAt_routed flight.slot.stage scene.stage.outbox within
    rw [pendingAt_closed engaged.found acted] at routed
    rw [if_pos clean]
    refine routed.trans (congrArg (run.pendingAt slot ++ ·) ?_)
    -- The items of the first stage are not in the outbox, and would arrive nowhere.
    have outbox := still.outbox
    rw [Stage.toNeighbours, feeds] at outbox
    show Outgoing.arrivals _ slot scene.stage.clearCaller.outbox =
      Outgoing.arrivals turn.call.stage slot _
    rw [outbox, engaged.place]
    by_cases first : flight.slot.stage = 0
    · rw [if_pos (by simp [first]), first]
      exact Outgoing.arrivals_filter slot _
    · rw [if_neg (by simpa using first)]
      rfl

/-- **Every move changes something in one of three ways.** -/
theorem change_of_move {next : Run T η} (sound : Sound job run) (move : Move job run next) :
    Change job run next := by
  cases move with
  | announce state =>
    obtain ⟨reports, announced⟩ := run.announce_eq job
    rw [announced, become_eq, reporting_reporting]
    exact .still (Turn.ofPast_reports _ _) (fun _ => rfl) ⟨verdicts_reporting run _, rfl, rfl⟩
  | succeed state eop =>
    obtain ⟨reports, succeeded⟩ := run.succeed_eq job
    rw [succeeded]
    exact .still (Turn.ofPast_reports _ _) (fun _ => rfl) ⟨verdicts_reporting run _, rfl, rfl⟩
  | starve =>
    exact .still (ofPast_fail job run _) (pendingAt_fail job run _) (unasked_fail job run _)
  | exceed =>
    exact .still (ofPast_fail job run _) (pendingAt_fail job run _) (unasked_fail job run _)
  | choose slot state eop next free =>
    rw [become_eq]
    exact .still (Turn.ofPast_reports (.ofRecord (.transition run.state .delivering)) run.past)
      (fun _ => rfl) ⟨verdicts_reporting run _, rfl, rfl⟩
  | start slot stage processor message rest state outcome flight current found hasProcessor
      popped =>
    exact .opened slot (rest.callFor slot.stage message) rfl rfl (Stage.kind_of_pop? popped)
      (pendingAt_opened processor found popped) (unasked_opened run slot processor message rest)
      outcome
  | refuse flight stage status scene failure polled refused =>
    obtain ⟨turn, earlier, acts, engaged, acted⟩ := exists_acted sound polled
    have still := engaged_afterPoll job engaged acted
    refine change_of_unclean sound polled.outcome engaged acted (turn.extend acts) rfl rfl ?_
      ((ofPast_fail job _ _).trans still.turns) (pendingAt_fail job _ _) (unasked_fail job _ _)
      fun other isRefused => ?_
    · exact Turn.isClean_of_underWay still.result
    · rw [outcome_fail, ← Option.some.inj (refused.symm.trans isRefused)]
  | wait flight stage scene rest polled accepted =>
    obtain ⟨turn, earlier, acts, engaged, acted⟩ := exists_acted sound polled
    have still := engaged_afterPoll job engaged acted
    refine change_of_unclean sound polled.outcome engaged acted (turn.extend acts) rfl rfl ?_
      still.turns (fun _ => rfl) ⟨rfl, rfl, rfl⟩ fun other isRefused => ?_
    · exact Turn.isClean_of_underWay still.result
    · cases accepted.symm.trans isRefused
  | overreach flight stage scene result polled accepted violation =>
    obtain ⟨turn, earlier, acts, engaged, acted⟩ := exists_acted sound polled
    have unasked : (run.afterPoll job flight.slot.stage scene).Unasked
        (((run.afterPoll job flight.slot.stage scene).settled flight result).modifyStage
          flight.slot.stage (·.clearViolation)) := by
      have settled := unasked_settled (run.afterPoll job flight.slot.stage scene) flight result
      exact ⟨settled.verdicts, settled.received, settled.delivered⟩
    refine change_of_unclean sound polled.outcome engaged acted ((turn.extend acts).ended result)
      rfl rfl ?_
      ((ofPast_fail job _ _).trans (ofPast_afterPoll_settled job engaged acted result)) ?_
      (unasked.trans (unasked_fail job _ _)) fun other isOffered => ?_
    · exact Turn.isClean_of_isRefused ((isRefused_eq_violation engaged acted).trans violation)
    · intro slot
      rw [pendingAt_fail, modifyStage_eq _ (getElem?_settled job scene result polled.found)]
      exact pendingAt_set (getElem?_afterPoll job scene polled.found)
        (fun kind => by cases kind <;> rfl) slot
    · cases accepted.symm.trans isOffered
  | fail flight stage scene failure polled accepted violation =>
    obtain ⟨turn, earlier, acts, engaged, acted⟩ := exists_acted sound polled
    refine change_of_unclean sound polled.outcome engaged acted
      ((turn.extend acts).ended (.error failure)) rfl rfl ?_
      ((ofPast_fail job _ _).trans (ofPast_afterPoll_settled job engaged acted (.error failure)))
      (pendingAt_fail job _ _) ((unasked_settled _ flight _).trans (unasked_fail job _ _))
      fun other isRefused => ?_
    · exact Turn.isClean_ended_error _ failure
    · cases accepted.symm.trans isRefused
  | finish flight stage scene polled accepted violation =>
    exact change_finish sound polled accepted violation
  | stop => exact .still rfl (fun _ => rfl) ⟨rfl, rfl, rfl⟩

/-- **Every step of a sound run changes something in one of three ways.** -/
theorem change_step (sound : Sound job run) : Change job run (run.step job) := by
  have change := change_of_move sound.awake (move_step sound)
  cases change with
  | still turns pending caller =>
    exact .still turns pending ⟨caller.verdicts, caller.received, caller.delivered⟩
  | opened slot call turns place kind pending caller outcome =>
    exact .opened slot call turns place kind pending
      ⟨caller.verdicts, caller.received, caller.delivered⟩ outcome
  | acted turn late earlier sent before turns underWay unfinished call more pending caller
      outcome =>
    exact .acted turn late earlier sent before turns underWay unfinished call more pending
      ⟨caller.verdicts, caller.received, caller.delivered, caller.refused⟩ outcome

end Run

end Relay
