import Relay.Proofs.Delivery
import Relay.Proofs.Run.Growth
import Relay.Proofs.Run.Orderly

/-!
# How runs succeed

A run succeeds exactly if a callback of the first stage sends the end of the pipe and then ends
well. That callback is the last one, whatever still waits. An end of the pipe that another stage
sends is a message like any other; and one of the first stage is worth nothing if its callback
fails, oversteps the boundary or has an item refused.

* `Turn.EndsPipe` says which turns end the pipe, and `Run.PipeEnd` is the invariant.
* `Run.succeeds_iff_pipe_ends` is the result.
-/

namespace Relay

variable {T : Traffic} {η : Type}

/-! ## (1) Turns that end the pipe -/

/-- The only message that is the end of the pipe. -/
theorem Outgoing.isEop_iff {message : Outgoing T} :
    message.isEop = true ↔ message = .response .eop := by
  rcases message with _ | _ | _ <;> simp [isEop, Reply.isEop]

/-- The end of the pipe is kept back from no neighbour. -/
theorem Outgoing.any_isEop_filter (sent : List (Outgoing T)) :
    (sent.filter (·.item?.isNone)).any isEop = sent.any isEop := by
  rw [List.any_filter]
  refine congrArg sent.any (funext fun message => ?_)
  rcases message with _ | _ | _ <;> rfl

namespace Turn

/-- **A turn that ends the pipe**: its callback is one of the first stage, has sent the end of the
pipe, has returned without a failure, and has not tried to send past the last stage. -/
structure EndsPipe (turn : Turn T) : Prop where
  first : turn.call.stage = 0
  sentEop : .response .eop ∈ turn.sent
  result : turn.result = some (.ok ())
  notRefused : turn.isRefused = false

/-- Whether a turn ends the pipe. -/
def endsPipe (turn : Turn T) : Bool :=
  turn.isClean && (turn.call.stage == 0 && turn.sent.any Outgoing.isEop)

/-- The test for turns that end the pipe is right. -/
theorem endsPipe_iff {turn : Turn T} : turn.endsPipe = true ↔ turn.EndsPipe := by
  constructor
  · intro ends
    obtain ⟨clean, first, sentEop⟩ := by simpa only [endsPipe, Bool.and_eq_true] using ends
    obtain ⟨message, member, isEop⟩ := List.any_eq_true.mp sentEop
    obtain rfl := Outgoing.isEop_iff.mp isEop
    have notRefused : turn.isRefused = false := by
      simpa using (Bool.and_eq_true_iff.mp clean).1
    exact ⟨by simpa using first, member, result_eq_of_isClean clean, notRefused⟩
  · rintro ⟨first, sentEop, result, notRefused⟩
    have sent : turn.sent.any Outgoing.isEop = true := List.any_eq_true.mpr ⟨_, sentEop, rfl⟩
    simp [endsPipe, isClean, first, sent, result, notRefused, Except.isOk, Except.toBool]

/-- A turn that has not ended well does not end the pipe. -/
theorem endsPipe_of_unclean {turn : Turn T} (unclean : turn.isClean = false) :
    turn.endsPipe = false := by
  rw [endsPipe, unclean, Bool.false_and]

end Turn

namespace Run

variable {job : Job T η} {run next : Run T η}

/-! ## (2) The invariant -/

/-- **What a run knows of the end of its pipe.** -/
structure PipeEnd (run : Run T η) : Prop where
  /-- It takes notice of every turn that ends the pipe. -/
  reached : run.eopReached = (Turn.ofPast run.past).any Turn.endsPipe
  /-- Only the latest turn may have ended the pipe. -/
  earlier : ∀ turn ∈ (Turn.ofPast run.past).tail, turn.endsPipe = false
  /-- Nothing is done any longer once the pipe has ended. -/
  idle : run.eopReached = true → run.flight = none ∧ (run.state = .running ∨ run.state = .terminated)
  /-- No run succeeds before. -/
  success : ∀ summary, run.outcome = some (.ok summary) → run.eopReached = true
  /-- After a turn that has ended well, a run fails for want of messages or steps only. -/
  failure : ∀ error turn, run.outcome = some (.error error) →
    (Turn.ofPast run.past).head? = some turn → turn.isClean = true →
      (∃ steps stages, error = .starvation steps stages) ∨ ∃ limit, error = .stepLimit limit

/-- A failure tells nothing of the end of the pipe. -/
theorem eopReached_fail (job : Job T η) (run : Run T η) (error : RunError) :
    (run.fail job error).eopReached = run.eopReached := by
  obtain ⟨reports, failed⟩ := run.fail_eq job error
  rw [failed]
  rfl

namespace PipeEnd

/-- No turn has ended the pipe as long as the run does not know of one. -/
theorem endsPipe_eq_false (known : PipeEnd run) (eop : run.eopReached = false) :
    ∀ turn ∈ Turn.ofPast run.past, turn.endsPipe = false := by
  intro turn member
  have none := known.reached.symm.trans eop
  simpa using List.any_eq_false.mp none turn member

/-- A run in another state than these does not know of an end of the pipe. -/
theorem eopReached_eq_false (known : PipeEnd run) (notRunning : run.state ≠ .running)
    (notTerminated : run.state ≠ .terminated) : run.eopReached = false := by
  cases eop : run.eopReached with
  | false => rfl
  | true =>
    rcases (known.idle eop).2 with running | terminated
    · exact absurd running notRunning
    · exact absurd terminated notTerminated

/-- **A run whose pipe has not ended.** -/
theorem of_unended (eop : next.eopReached = false)
    (unended : ∀ turn ∈ Turn.ofPast next.past, turn.endsPipe = false)
    (outcome : ∀ summary, next.outcome ≠ some (.ok summary))
    (failure : ∀ error turn, next.outcome = some (.error error) →
      (Turn.ofPast next.past).head? = some turn → turn.isClean = true →
        (∃ steps stages, error = .starvation steps stages) ∨ ∃ limit, error = .stepLimit limit) :
    PipeEnd next where
  reached := by
    rw [eop]
    refine (List.any_eq_false.mpr fun turn member => ?_).symm
    rw [unended turn member]
    exact Bool.false_ne_true
  earlier turn member := unended turn (List.mem_of_mem_tail member)
  idle reached := absurd (eop.symm.trans reached) Bool.false_ne_true
  success summary succeeded := absurd succeeded (outcome summary)
  failure := failure

/-- **A run that goes on without a turn of a callback** before the end of its pipe. -/
theorem of_turns_eq (known : PipeEnd run) (eop : run.eopReached = false)
    (same : next.eopReached = run.eopReached)
    (turns : Turn.ofPast next.past = Turn.ofPast run.past) (outcome : next.outcome = none) :
    PipeEnd next := by
  refine of_unended (same.trans eop) ?_ (by simp [outcome]) (by simp [outcome])
  rw [turns]
  exact known.endsPipe_eq_false eop

/-- **A run that fails between two callbacks** does so for want of messages or steps. -/
theorem fail_atRest (known : PipeEnd run) (eop : run.eopReached = false) (error : RunError)
    (want : (∃ steps stages, error = .starvation steps stages) ∨ ∃ limit, error = .stepLimit limit) :
    PipeEnd (run.fail job error) := by
  have outcome := outcome_fail job run error
  refine of_unended ((eopReached_fail job run error).trans eop) ?_ (by simp [outcome]) fun other turn failed _ _ => ?_
  · rw [ofPast_fail]
    exact known.endsPipe_eq_false eop
  · obtain rfl : error = other := by simpa [outcome] using failed
    exact want

/-- **A callback that goes on, or does not end well**, does not end the pipe. -/
theorem of_unclean {turn late : Turn T} {others : List (Turn T)} (known : PipeEnd run)
    (eop : run.eopReached = false) (same : next.eopReached = run.eopReached)
    (turns : Turn.ofPast run.past = turn :: others)
    (later : Turn.ofPast next.past = late :: others) (unclean : late.isClean = false)
    (outcome : ∀ summary, next.outcome ≠ some (.ok summary)) : PipeEnd next := by
  refine of_unended (same.trans eop) ?_ outcome fun error other _ isLatest clean => ?_
  · have before := known.endsPipe_eq_false eop
    rw [turns] at before
    rw [later]
    refine List.forall_mem_cons.mpr ⟨Turn.endsPipe_of_unclean unclean, ?_⟩
    exact (List.forall_mem_cons.mp before).2
  · rw [later, List.head?_cons, Option.some.injEq] at isLatest
    subst isLatest
    cases clean.symm.trans unclean

/-- **A callback with which the run fails** does not end the pipe either. -/
theorem fail_of_unclean {mid : Run T η} {turn late : Turn T} {others : List (Turn T)}
    (known : PipeEnd run) (eop : run.eopReached = false)
    (turns : Turn.ofPast run.past = turn :: others)
    (later : Turn.ofPast mid.past = late :: others) (same : mid.eopReached = run.eopReached)
    (unclean : late.isClean = false) (error : RunError) : PipeEnd (mid.fail job error) := by
  refine known.of_unclean eop ((eopReached_fail job mid error).trans same) turns
    ((ofPast_fail job mid error).trans later) unclean ?_
  simp [outcome_fail]

end PipeEnd

/-- Before a run its pipe has not ended. -/
theorem pipeEnd_seed (job : Job T η) (received : η) (memory : T.Memory) :
    PipeEnd (seed job received memory) :=
  .of_unended rfl (by simp [seed]) (by simp [seed]) (by simp [seed])

/-! ## (3) Moves -/

/-- **A callback that ends well** ends the pipe if it is one of the first stage and has sent the end
of the pipe, at whatever place among its messages. -/
theorem PipeEnd.finish {flight : Flight T} {stage : Stage T} {scene : Callback.Scene T}
    (known : PipeEnd run) (sound : Sound job run)
    (polled : run.Polled flight stage (.finished (.ok ())) scene)
    (violation : scene.stage.violation = false) :
    PipeEnd (((run.afterPoll job flight.slot.stage scene).settled flight (.ok ())).route job
      flight.slot.stage) := by
  have eop := known.eopReached_eq_false (by simp [polled.state]) (by simp [polled.state])
  obtain ⟨turn, earlier, acts, engaged, acted⟩ := exists_acted sound polled
  obtain ⟨reports, finished⟩ := finish_eq sound.toWired engaged acted
  have still := engaged_afterPoll job engaged acted
  let late := (turn.extend acts).ended (.ok ())
  have before := known.endsPipe_eq_false eop
  rw [engaged.turns] at before
  have others : ∀ other ∈ earlier, other.endsPipe = false := (List.forall_mem_cons.mp before).2
  -- What the first stage keeps back from its neighbours are items, and no end of the pipe.
  have feeds : scene.stage.clearCaller.feedsCaller = (flight.slot.stage == 0) :=
    (wired_afterPoll sound.toWired polled.found acted).feedsCaller_eq still.found
  have outbox : scene.stage.outbox.any Outgoing.isEop = late.sent.any Outgoing.isEop := by
    have kept : scene.stage.outbox = _ := still.outbox
    rw [kept, Stage.toNeighbours]
    split
    · exact Outgoing.any_isEop_filter _
    · rfl
  have clean : late.isClean = true :=
    Turn.isClean_ended_ok ((isRefused_eq_violation engaged acted).trans violation)
  have place : late.call.stage = flight.slot.stage := engaged.place
  have endsPipe : late.endsPipe =
      (flight.slot.stage == 0 && scene.stage.outbox.any Outgoing.isEop) := by
    rw [Turn.endsPipe, clean, outbox, place, Bool.true_and]
  have turns := (Turn.ofPast_reports reports _).trans
    (ofPast_afterPoll_settled job engaged acted (.ok ()))
  rw [finished]
  refine ⟨?reached, ?earlier, fun _ => ⟨rfl, .inl rfl⟩, ?success, ?failure⟩
  case reached =>
    have none : earlier.any Turn.endsPipe = false :=
      List.any_eq_false.mpr fun other member => by simp [others other member]
    have reached : (run.eopReached || (flight.slot.stage == 0 &&
        scene.stage.outbox.any Outgoing.isEop)) = (late :: earlier).any Turn.endsPipe := by
      rw [List.any_cons, none, endsPipe, eop, Bool.false_or, Bool.or_false]
    exact reached.trans (congrArg (List.any · Turn.endsPipe) turns.symm)
  case earlier =>
    intro other member
    have isEarlier : other ∈ (late :: earlier).tail := by
      rw [← turns]
      exact member
    exact others other isEarlier
  case success => exact fun summary succeeded => by cases polled.outcome.symm.trans succeeded
  case failure => exact fun error other failed => by cases polled.outcome.symm.trans failed

/-- **Moves keep the knowledge of the end of the pipe.** -/
theorem pipeEnd_of_move (sound : Sound job run) (known : PipeEnd run)
    (move : Move job run next) : PipeEnd next := by
  -- A callback in flight means that the pipe has not ended so far.
  have underWay : run.state = .delivering → run.eopReached = false := fun state =>
    known.eopReached_eq_false (by simp [state]) (by simp [state])
  cases move with
  | announce state =>
    obtain ⟨outcome, -, -⟩ := sound.atRest state (.inl rfl)
    obtain ⟨reports, announced⟩ := run.announce_eq job
    have eop := known.eopReached_eq_false (by simp [state]) (by simp [state])
    rw [announced, become_eq, reporting_reporting]
    exact known.of_turns_eq eop rfl (Turn.ofPast_reports _ _) outcome
  | succeed state eop =>
    obtain ⟨-, flight, -⟩ := sound.atRest state (.inr rfl)
    obtain ⟨reports, succeeded⟩ := run.succeed_eq job
    have turns := Turn.ofPast_reports reports run.past
    rw [succeeded]
    refine ⟨?_, ?_, fun _ => ⟨flight, .inr rfl⟩, fun _ _ => eop, fun error _ failed => ?_⟩
    · exact known.reached.trans (congrArg (List.any · Turn.endsPipe) turns.symm)
    · exact fun turn member => known.earlier turn (turns ▸ member)
    · cases failed
  | starve state eop => exact known.fail_atRest eop _ (.inl ⟨_, _, rfl⟩)
  | exceed slot limit state eop => exact known.fail_atRest eop _ (.inr ⟨_, rfl⟩)
  | choose slot state eop =>
    obtain ⟨outcome, -, -⟩ := sound.atRest state (.inr rfl)
    rw [become_eq]
    exact known.of_turns_eq eop rfl
      (Turn.ofPast_reports (.ofRecord (.transition run.state .delivering)) _) outcome
  | start slot stage processor message rest state outcome =>
    -- A turn that is opened has sent nothing so far.
    have eop := underWay state
    have begun : Turn.endsPipe { call := rest.callFor slot.stage message } = false := rfl
    refine .of_unended eop ?_ (by simp [opened, outcome]) (by simp [opened, outcome])
    exact List.forall_mem_cons.mpr ⟨begun, known.endsPipe_eq_false eop⟩
  | refuse flight stage status scene failure polled =>
    obtain ⟨turn, earlier, acts, engaged, acted⟩ := exists_acted sound polled
    have still := engaged_afterPoll job engaged acted
    refine known.fail_of_unclean (underWay polled.state) engaged.turns still.turns rfl ?_ _
    exact Turn.isClean_of_underWay still.result
  | wait flight stage scene rest polled =>
    obtain ⟨turn, earlier, acts, engaged, acted⟩ := exists_acted sound polled
    have still := engaged_afterPoll job engaged acted
    refine known.of_unclean (underWay polled.state) rfl engaged.turns still.turns ?_
      (by simp [afterPoll, polled.outcome])
    exact Turn.isClean_of_underWay still.result
  | overreach flight stage scene result polled accepted violation =>
    obtain ⟨turn, earlier, acts, engaged, acted⟩ := exists_acted sound polled
    have isRefused := (isRefused_eq_violation engaged acted).trans violation
    have later : Turn.ofPast (((run.afterPoll job flight.slot.stage scene).settled flight
        result).modifyStage flight.slot.stage (·.clearViolation)).past = _ :=
      ofPast_afterPoll_settled job engaged acted result
    refine known.fail_of_unclean (underWay polled.state) engaged.turns later rfl ?_ _
    exact Turn.isClean_of_isRefused isRefused
  | fail flight stage scene failure polled =>
    obtain ⟨turn, earlier, acts, engaged, acted⟩ := exists_acted sound polled
    refine known.fail_of_unclean (underWay polled.state) engaged.turns
      (ofPast_afterPoll_settled job engaged acted (.error failure)) rfl ?_ _
    exact Turn.isClean_ended_error _ failure
  | finish flight stage scene polled accepted violation =>
    exact known.finish sound polled violation
  | stop => exact known

/-- **In every state that it comes to, a run knows of the end of its pipe.** -/
theorem pipeEnd_after (job : Job T η) (received : η) (memory : T.Memory) (n : Nat) :
    PipeEnd ((seed job received memory).after job n) := by
  induction n with
  | zero => exact pipeEnd_seed job received memory
  | succ n ih =>
    have sound := sound_after job received memory n
    have awake : PipeEnd ((seed job received memory).after job n).awake :=
      ⟨ih.reached, ih.earlier, ih.idle, ih.success, ih.failure⟩
    exact pipeEnd_of_move sound.awake awake (move_step sound)

/-! ## (4) The last turn -/

/-- **A turn that ends the pipe is the latest one**, and no turn of the first stage before it has
sent the end of the pipe. -/
theorem PipeEnd.exists_before (known : PipeEnd run) (orderly : Orderly run) {turn : Turn T}
    (member : turn ∈ run.turns) (ends : turn.EndsPipe) :
    ∃ before, run.turns = before ++ [turn] ∧
      ∀ earlier ∈ before, earlier.call.stage = 0 → .response .eop ∉ earlier.sent := by
  have isEnd := Turn.endsPipe_iff.mpr ends
  have among : turn ∈ Turn.ofPast run.past := List.mem_reverse.mp member
  have inTail := known.earlier
  have clean := orderly.earlier
  cases turns : Turn.ofPast run.past with
  | nil =>
    rw [turns] at among
    cases among
  | cons latest others =>
    rw [turns] at among inTail clean
    rcases List.mem_cons.mp among with rfl | isEarlier
    · refine ⟨others.reverse, turns_eq_concat turns, fun earlier isBefore first sentEop => ?_⟩
      -- An earlier turn has ended well, and would have ended the pipe.
      have isOther := List.mem_reverse.mp isBefore
      have isClean := clean earlier isOther
      have notRefused : earlier.isRefused = false := by
        simpa using (Bool.and_eq_true_iff.mp isClean).1
      have isEarlierEnd := Turn.endsPipe_iff.mpr
        ⟨first, sentEop, Turn.result_eq_of_isClean isClean, notRefused⟩
      cases (inTail earlier isOther).symm.trans isEarlierEnd
    · cases (inTail turn isEarlier).symm.trans isEnd

/-- **A run that knows of the end of its pipe** has a latest turn, which has ended it. -/
theorem PipeEnd.exists_endsPipe (known : PipeEnd run) (eop : run.eopReached = true) :
    ∃ before turn, run.turns = before ++ [turn] ∧ turn.EndsPipe := by
  have some := known.reached.symm.trans eop
  have inTail := known.earlier
  cases turns : Turn.ofPast run.past with
  | nil => simp [turns] at some
  | cons latest others =>
    rw [turns] at some inTail
    obtain ⟨turn, member, isEnd⟩ := List.any_eq_true.mp some
    rcases List.mem_cons.mp member with rfl | isEarlier
    · exact ⟨others.reverse, turn, turns_eq_concat turns, Turn.endsPipe_iff.mp isEnd⟩
    · cases (inTail turn isEarlier).symm.trans isEnd

/-- **The step behind the end of the pipe** is the success of the run, and touches nothing that
still waits. -/
theorem PipeEnd.step_of_eopReached (known : PipeEnd run) (sound : Sound job run)
    (eop : run.eopReached = true) :
    (∃ summary, (run.step job).outcome = some (.ok summary)) ∧
      (run.step job).turns = run.turns ∧
      ∀ slot, (run.step job).pendingAt slot = run.pendingAt slot := by
  rcases (known.idle eop).2 with running | terminated
  · -- The end of the pipe is looked for before any message, and before the limit.
    obtain ⟨reports, succeeded⟩ := run.awake.succeed_eq job
    have out : run.awake.eopReached = true := eop
    have step : run.step job = run.awake.succeed job :=
      (step_of_running running).trans (choose_of_eop out _)
    rw [step, succeeded]
    exact ⟨⟨_, rfl⟩, congrArg List.reverse (Turn.ofPast_reports reports run.past), fun _ => rfl⟩
  · have isTerminal : run.state.isTerminal = true := by rw [terminated]; rfl
    have outcome : ∃ summary, run.outcome = some (.ok summary) := by
      cases sound.phase with
      | succeeded summary _ outcome => exact ⟨summary, outcome⟩
      | atRest state => simp [terminated] at state
      | chosen _ state => simp [terminated] at state
      | inFlight _ state => simp [terminated] at state
      | failed _ state => simp [terminated] at state
    rw [step_of_isTerminal isTerminal]
    exact ⟨outcome, rfl, fun _ => rfl⟩

section Reached

variable {received : η} {memory : T.Memory} {m n : Nat}

/-- **Behind the end of the pipe nothing happens** but the success of the run. -/
theorem after_of_eopReached (eop : ((seed job received memory).after job n).eopReached = true)
    (lt : n < m) :
    (∃ summary, ((seed job received memory).after job m).outcome = some (.ok summary)) ∧
      ((seed job received memory).after job m).turns =
        ((seed job received memory).after job n).turns ∧
      ∀ slot, ((seed job received memory).after job m).pendingAt slot =
        ((seed job received memory).after job n).pendingAt slot := by
  induction m, lt using Nat.le_induction with
  | base =>
    exact (pipeEnd_after job received memory n).step_of_eopReached
      (sound_after job received memory n) eop
  | succ m _ ih =>
    obtain ⟨⟨summary, succeeded⟩, turns, pending⟩ := ih
    have stays := step_of_finished (sound_after job received memory m) succeeded
    rw [after, stays]
    exact ⟨⟨summary, succeeded⟩, turns, pending⟩

/-- A run that fails does not succeed, neither sooner nor later. -/
theorem outcome_ne_ok_of_failed {error : RunError}
    (failed : ((seed job received memory).after job n).outcome = some (.error error)) (m : Nat)
    (summary : RunSummary) :
    ((seed job received memory).after job m).outcome ≠ some (.ok summary) := by
  intro succeeded
  have late := outcome_after_of_finished (Nat.le_max_left m n) succeeded
  cases late.symm.trans (outcome_after_of_finished (Nat.le_max_right m n) failed)

/-- **A run with a turn that has not ended well never succeeds**: one that has tried to send past
the last stage, one that has failed, or one of whose items has been refused. -/
theorem outcome_ne_ok_of_unclean {before : List (Turn T)} {turn : Turn T}
    (turns : ((seed job received memory).after job n).turns = before ++ [turn])
    (unclean : turn.isRefused = true ∨ (∃ failure, turn.result = some (.error failure)) ∨
      ∃ verdict ∈ ((seed job received memory).after job n).verdicts, verdict.2.isOk = false)
    (m : Nat) (summary : RunSummary) :
    ((seed job received memory).after job m).outcome ≠ some (.ok summary) := by
  have member : turn ∈ ((seed job received memory).after job n).turns := by rw [turns]; simp
  rcases unclean with refused | ⟨failure, result⟩ | ⟨verdict, isVerdict, bad⟩
  · -- The attempt is remembered, and so the turn is not clean in any later state.
    intro succeeded
    have late := outcome_after_of_finished (Nat.le_max_left m n) succeeded
    have eop := (pipeEnd_after job received memory (max m n)).success summary late
    have idle := ((pipeEnd_after job received memory (max m n)).idle eop).1
    obtain ⟨later, behind, grown, goesOn⟩ := turns_grow (Nat.le_max_right m n) turns
    have isLater : later ∈ ((seed job received memory).after job (max m n)).turns := by
      rw [grown]
      simp
    have clean := (orderly_after job received memory (max m n)).latest (by simp [late]) idle later
      (List.mem_reverse.mp isLater)
    simp [Turn.isClean, goesOn.isRefused refused] at clean
  · -- A callback in flight has not failed yet, and with one that has failed the run has failed.
    have failed : ∃ error,
        ((seed job received memory).after job n).outcome = some (.error error) := by
      by_contra unfailed
      push Not at unfailed
      cases flight : ((seed job received memory).after job n).flight with
      | none =>
        have clean := (orderly_after job received memory n).latest unfailed flight turn
          (List.mem_reverse.mp member)
        cases result.symm.trans (Turn.result_eq_of_isClean clean)
      | some inFlight =>
        obtain ⟨stage, latest, earlier, engaged⟩ :=
          (sound_after job received memory n).engaged inFlight flight
        obtain ⟨rfl, -⟩ := List.cons.inj ((ofPast_of_turns_eq turns).symm.trans engaged.turns)
        cases result.symm.trans engaged.result
    obtain ⟨error, failed⟩ := failed
    exact outcome_ne_ok_of_failed failed m summary
  · rcases (delivered_after job received memory n).offers_cut with all | ⟨_, _, _, _, -, -, failed⟩
    · rw [all] at isVerdict
      obtain ⟨item, -, rfl⟩ := List.mem_map.mp isVerdict
      cases bad
    · exact outcome_ne_ok_of_failed failed m summary

end Reached

/-! ## (5) The result -/

/-- **A run succeeds exactly if a callback of the first stage sends the end of the pipe and ends
well**, with all its items accepted. Such a callback is the last one of the run: no callback of the
first stage has sent the end of the pipe before, none is started any longer, and whatever waits goes
on waiting. A run with a turn that tries to send past the last stage, fails or has an item refused
never succeeds, whatever has been sent in it. And after a callback of another stage that has ended
well, whatever it has sent, a run ends only because nothing waits or the limit is reached. -/
theorem succeeds_iff_pipe_ends (job : Job T η) (received : η) (memory : T.Memory) :
    let run := (seed job received memory).after job
    ((∃ n summary, (run n).outcome = some (.ok summary)) ↔
      ∃ n before turn, (run n).turns = before ++ [turn] ∧ turn.EndsPipe ∧
        (run n).verdicts =
          Handler.acceptances (Turn.forCaller before ++ turn.sent.filterMap Outgoing.item?)) ∧
    (∀ n, ∀ turn ∈ (run n).turns, turn.EndsPipe →
      (∃ before, (run n).turns = before ++ [turn] ∧
        ∀ earlier ∈ before, earlier.call.stage = 0 → .response .eop ∉ earlier.sent) ∧
      ∀ m, n < m → (∃ summary, (run m).outcome = some (.ok summary)) ∧
        (run m).turns = (run n).turns ∧
        ∀ slot, (run m).pendingAt slot = (run n).pendingAt slot) ∧
    (∀ n before turn, (run n).turns = before ++ [turn] →
      turn.isRefused = true ∨ (∃ failure, turn.result = some (.error failure)) ∨
        (∃ verdict ∈ (run n).verdicts, verdict.2.isOk = false) →
      ∀ m summary, (run m).outcome ≠ some (.ok summary)) ∧
    ∀ n before turn, (run n).turns = before ++ [turn] → turn.call.stage ≠ 0 →
      turn.isClean = true → (run n).outcome = none ∨
        (∃ steps stages, (run n).outcome = some (.error (.starvation steps stages))) ∨
        ∃ limit, (run n).outcome = some (.error (.stepLimit limit)) := by
  intro run
  have known : ∀ n, PipeEnd (run n) := pipeEnd_after job received memory
  have reached : ∀ n, ∀ turn ∈ (run n).turns, turn.EndsPipe → (run n).eopReached = true := by
    intro n turn member ends
    rw [(known n).reached]
    exact List.any_eq_true.mpr ⟨turn, List.mem_reverse.mp member, Turn.endsPipe_iff.mpr ends⟩
  refine ⟨⟨?success, ?ends⟩, ?last, ?worthless, ?elsewhere⟩
  case success =>
    rintro ⟨n, summary, succeeded⟩
    have eop := (known n).success summary succeeded
    obtain ⟨before, turn, turns, ends⟩ := (known n).exists_endsPipe eop
    refine ⟨n, before, turn, turns, ends, ?_⟩
    have accepted := (delivered_after job received memory n).verdicts_eq
      (by intro error failed; cases succeeded.symm.trans failed)
    have items : Outgoing.forCaller turn.call.stage turn.sent =
        turn.sent.filterMap Outgoing.item? := if_pos ends.first
    rw [← items, ← Turn.forCaller_concat, ← turns]
    exact accepted
  case ends =>
    rintro ⟨n, before, turn, turns, ends, -⟩
    have eop := reached n turn (by rw [turns]; simp) ends
    obtain ⟨succeeded, -, -⟩ := after_of_eopReached eop (Nat.lt_succ_self n)
    exact ⟨n + 1, succeeded⟩
  case last =>
    intro n turn member ends
    exact ⟨(known n).exists_before (orderly_after job received memory n) member ends,
      fun m lt => after_of_eopReached (reached n turn member ends) lt⟩
  case worthless =>
    intro n before turn turns unclean
    exact outcome_ne_ok_of_unclean turns unclean
  case elsewhere =>
    intro n before turn turns notFirst clean
    have latest : (Turn.ofPast (run n).past).head? = some turn := by
      rw [ofPast_of_turns_eq turns, List.head?_cons]
    rcases outcome : (run n).outcome with _ | error | summary
    · exact .inl rfl
    · rcases (known n).failure error turn outcome latest clean with ⟨steps, stages, rfl⟩ | ⟨limit, rfl⟩
      · exact .inr (.inl ⟨steps, stages, rfl⟩)
      · exact .inr (.inr ⟨limit, rfl⟩)
    · -- A run that has succeeded has had its last turn at the first stage.
      obtain ⟨others, last, isLast, ends⟩ :=
        (known n).exists_endsPipe ((known n).success summary outcome)
      obtain ⟨rfl, -⟩ := List.cons.inj
        ((ofPast_of_turns_eq turns).symm.trans (ofPast_of_turns_eq isLast))
      exact absurd ends.first notFirst

end Run

end Relay
