import Relay.Proofs.Conservation
import Relay.Proofs.Run.Chronicle

/-!
# The course of a run

A run starts, goes round after round, and ends. A round is the choice of a message and a callback
for it that ends well. What a run has told on its way hangs on its state and on the number of its
rounds, and at its end on how it has come out.

* `Run.Stride` lists what a step can add to the milestones, `Run.stride_step` says that it does.
* `Run.Course` lists the milestones of runs, `Run.course_after` says that they are those.
-/

namespace Relay

variable {T : Traffic} {η : Type}

/-! ## (1) Rounds -/

/-- The milestones of a run up to the choice of a message. -/
def Job.beginning (job : Job T η) (rounds : Nat) : List Milestone :=
  job.told (Run.startedEvent job) ++ .change .seeded .running ::
    (List.replicate rounds
      [Milestone.change .running .delivering, .change .delivering .running]).flatten

/-- One more round. -/
theorem Job.beginning_succ (job : Job T η) (rounds : Nat) :
    job.beginning (rounds + 1) =
      job.beginning rounds ++ [.change .running .delivering, .change .delivering .running] := by
  simp [beginning, List.replicate_succ']

namespace Run

variable {job : Job T η} {run next : Run T η} {milestones more : List Milestone}

/-- **The rounds of a run**: the callbacks that have ended well. -/
def rounds (run : Run T η) : Nat := run.turns.countP Turn.isClean

/-- Rounds are counted off the journal. -/
theorem rounds_eq (run : Run T η) :
    run.rounds = (Turn.ofPast run.past).countP Turn.isClean := List.countP_reverse

/-- The latest turn may be a round. -/
theorem rounds_of_latest {turn : Turn T} {earlier : List (Turn T)}
    (turns : Turn.ofPast run.past = turn :: earlier) :
    run.rounds = earlier.countP Turn.isClean + if turn.isClean then 1 else 0 := by
  rw [rounds_eq, turns, List.countP_cons]

/-- Where nothing happens to the turns, there is no new round. -/
theorem rounds_of_turns_eq (turns : Turn.ofPast next.past = Turn.ofPast run.past) :
    next.rounds = run.rounds := by
  rw [rounds_eq, rounds_eq, turns]

/-- A callback under way that has not ended well is no round. -/
theorem rounds_of_unclean {turn late : Turn T} {earlier : List (Turn T)}
    (turns : Turn.ofPast run.past = turn :: earlier) (underWay : turn.result = none)
    (later : Turn.ofPast next.past = late :: earlier) (unclean : late.isClean = false) :
    next.rounds = run.rounds := by
  rw [rounds_of_latest turns, rounds_of_latest later, Turn.isClean_of_underWay underWay, unclean]

/-- **The callbacks that a run has chosen messages for**: those that have been started, and the one
that is about to be. -/
def visits (run : Run T η) : Nat :=
  run.turns.length + if run.state = .delivering ∧ run.flight = none then 1 else 0

/-- A run that is not about to start a callback has started all. -/
theorem visits_of_not_chosen (notChosen : ¬ (run.state = .delivering ∧ run.flight = none)) :
    run.visits = run.turns.length := by
  rw [visits, if_neg notChosen, Nat.add_zero]

/-- A chosen message is counted before its callback is started. -/
theorem visits_of_chosen (state : run.state = .delivering) (idle : run.flight = none) :
    run.visits = run.turns.length + 1 := by
  rw [visits, if_pos ⟨state, idle⟩]

/-! ## (2) Strides -/

/-- **What a step adds to the milestones** of a run. -/
inductive Stride (job : Job T η) (run next : Run T η) : List Milestone → Prop where
  /-- The state stays. -/
  | still (state : next.state = run.state) (outcome : next.outcome = run.outcome)
      (steps : next.steps = run.steps) (rounds : next.rounds = run.rounds)
      (visits : next.visits = run.visits) : Stride job run next []
  /-- The run is announced. -/
  | announced (before : run.state = .seeded) (state : next.state = .running)
      (rounds : next.rounds = run.rounds) (visits : next.visits = run.visits) :
      Stride job run next (job.told (startedEvent job) ++ [.change .seeded .running])
  /-- A message is chosen. -/
  | chosen (before : run.state = .running) (state : next.state = .delivering)
      (rounds : next.rounds = run.rounds) (visits : next.visits = run.visits + 1) :
      Stride job run next [.change .running .delivering]
  /-- A callback has ended well. -/
  | returned (before : run.state = .delivering) (state : next.state = .running)
      (rounds : next.rounds = run.rounds + 1) (visits : next.visits = run.visits) :
      Stride job run next [.change .delivering .running]
  /-- The run has succeeded. -/
  | succeeded (summary : RunSummary) (before : run.state = .running)
      (state : next.state = .terminated) (outcome : next.outcome = some (.ok summary))
      (rounds : next.rounds = run.rounds) (visits : next.visits = run.visits) :
      Stride job run next (.change .running .terminated :: job.told summary.completedEvent)
  /-- The run has failed. -/
  | failed (error : RunError) (before : run.state = .running ∨ run.state = .delivering)
      (state : next.state = .failed) (outcome : next.outcome = some (.error error))
      (rounds : next.rounds = run.rounds) (visits : next.visits = run.visits) :
      Stride job run next (.change run.state .failed :: job.told (failedEvent job next error))

/-- The event that reports a failure tells of the steps and of nothing else of the run. -/
theorem failedEvent_congr {other : Run T η} (steps : other.steps = run.steps) (error : RunError) :
    failedEvent job other error = failedEvent job run error := by
  rw [failedEvent, failedEvent, steps]

/-- **A failure** adds itself to the milestones. -/
theorem stride_fail (run : Run T η) {mid : Run T η} (chronicled : Chronicled job mid milestones)
    (same : mid.state = run.state) (before : run.state = .running ∨ run.state = .delivering)
    (rounds : mid.rounds = run.rounds) (visits : run.visits = mid.turns.length)
    (error : RunError) :
    ∃ more, Stride job run (mid.fail job error) more ∧
      Chronicled job (mid.fail job error) (milestones ++ more) := by
  have failed := chronicled.fail error
  have turns := ofPast_fail job mid error
  have state := state_fail job mid error
  rw [same, ← failedEvent_congr (steps_fail job mid error)] at failed
  refine ⟨_, .failed error before state (outcome_fail job mid error)
    ((rounds_of_turns_eq turns).trans rounds) ?_, failed⟩
  rw [visits_of_not_chosen (by simp [state]), visits, length_turns_of_turns_eq turns]

/-- A run at rest is not about to start a callback. -/
theorem visits_at_rest (state : run.state ≠ .delivering) : run.visits = run.turns.length :=
  visits_of_not_chosen fun chosen => state chosen.1

/-- Nor is one with a callback in flight. -/
theorem visits_in_flight {flight : Flight T} (isFlight : run.flight = some flight) :
    run.visits = run.turns.length :=
  visits_of_not_chosen fun chosen => by cases chosen.2.symm.trans isFlight

/-- **Moves add to the milestones** what they are. -/
theorem stride_of_move (sound : Sound job run) (move : Move job run next)
    (chronicled : Chronicled job run milestones) :
    ∃ more, Stride job run next more ∧ Chronicled job next (milestones ++ more) := by
  cases move with
  | announce state =>
    obtain ⟨reports, announced⟩ := run.announce_eq job
    have running := chronicled.announce.become .running
    have same : (run.announce job).state = .seeded := by
      rw [announced]
      exact state
    rw [same, List.append_assoc] at running
    have turns : Turn.ofPast ((run.announce job).become .running).past =
        Turn.ofPast run.past := by
      rw [announced, become_eq, reporting_reporting]
      exact Turn.ofPast_reports _ run.past
    have before : run.visits = run.turns.length := visits_at_rest (by simp [state])
    refine ⟨_, .announced state rfl (rounds_of_turns_eq turns) ?_, running⟩
    rw [before, ← length_turns_of_turns_eq turns]
    exact visits_at_rest RunState.noConfusion
  | succeed state =>
    obtain ⟨reports, succeeded⟩ := run.succeed_eq job
    have ended := chronicled.succeed
    rw [state] at ended
    have turns : Turn.ofPast (run.succeed job).past = Turn.ofPast run.past := by
      rw [succeeded]
      exact Turn.ofPast_reports reports run.past
    have later : (run.succeed job).state = .terminated := by rw [succeeded]
    have before : run.visits = run.turns.length := visits_at_rest (by simp [state])
    refine ⟨_, .succeeded (run.summary job) state later ?_ (rounds_of_turns_eq turns) ?_, ended⟩
    · rw [succeeded]
    · rw [before, ← length_turns_of_turns_eq turns]
      exact visits_at_rest (by simp [later])
  | starve state =>
    exact stride_fail run chronicled rfl (.inl state) rfl (visits_at_rest (by simp [state])) _
  | exceed slot limit state =>
    exact stride_fail run chronicled rfl (.inl state) rfl (visits_at_rest (by simp [state])) _
  | choose slot state =>
    obtain ⟨-, idle, -⟩ := sound.atRest state (.inr rfl)
    have chosen : Chronicled job { run with current := some slot } milestones := chronicled
    have delivering : Chronicled job ({ run with current := some slot }.become .delivering)
        (milestones ++ [.change run.state .delivering]) := chosen.become .delivering
    have change : Milestone.change run.state .delivering = .change .running .delivering := by
      rw [state]
    rw [change] at delivering
    have turns : Turn.ofPast ({ run with current := some slot }.become .delivering).past =
        Turn.ofPast run.past :=
      Turn.ofPast_reports (.ofRecord (.transition run.state .delivering)) run.past
    have before : run.visits = run.turns.length := visits_at_rest (by simp [state])
    refine ⟨_, .chosen state rfl (rounds_of_turns_eq turns) ?_, delivering⟩
    rw [before, ← length_turns_of_turns_eq turns]
    exact visits_of_chosen rfl idle
  | start slot stage processor message rest state _ idle =>
    have turns : Turn.ofPast (run.opened slot processor message rest).past =
        { call := rest.callFor slot.stage message } :: Turn.ofPast run.past := rfl
    refine ⟨_, .still rfl rfl rfl ?_ ?_, ?_⟩
    · rw [rounds_of_latest turns, Turn.isClean_of_underWay rfl, rounds_eq]
      rfl
    · have length := congrArg List.length (turns_eq_concat turns)
      rw [List.length_append, List.length_reverse] at length
      rw [visits_of_chosen state idle, visits_in_flight rfl, length, Run.turns,
        List.length_reverse]
      rfl
    · rw [List.append_nil]
      exact chronicled.opened slot processor message rest
  | refuse flight stage status scene failure polled =>
    obtain ⟨turn, earlier, acts, engaged, acted⟩ := exists_acted sound polled
    have still := engaged_afterPoll job engaged acted
    have rounds := rounds_of_unclean engaged.turns engaged.result still.turns
      (Turn.isClean_of_underWay still.result)
    have length := length_turns_of_latest engaged.turns still.turns
    exact stride_fail run (chronicled.afterPoll _ acted) rfl (.inr polled.state) rounds
      ((visits_in_flight polled.isFlight).trans length.symm) _
  | wait flight stage scene rest polled =>
    obtain ⟨turn, earlier, acts, engaged, acted⟩ := exists_acted sound polled
    have still := engaged_afterPoll job engaged acted
    have rounds := rounds_of_unclean engaged.turns engaged.result still.turns
      (Turn.isClean_of_underWay still.result)
    refine ⟨_, .still rfl rfl rfl rounds ?_, ?_⟩
    · rw [visits_in_flight polled.isFlight, ← length_turns_of_latest engaged.turns still.turns]
      exact visits_in_flight rfl
    · rw [List.append_nil]
      exact chronicled.afterPoll flight.slot.stage acted
  | overreach flight stage scene result polled accepted violation =>
    obtain ⟨turn, earlier, acts, engaged, acted⟩ := exists_acted sound polled
    have later := ofPast_afterPoll_settled job engaged acted result
    have isRefused := (isRefused_eq_violation engaged acted).trans violation
    have rounds := rounds_of_unclean engaged.turns engaged.result later
      (Turn.isClean_of_isRefused isRefused)
    have length := length_turns_of_latest engaged.turns later
    have settled : Chronicled job (((run.afterPoll job flight.slot.stage scene).settled flight
        result).modifyStage flight.slot.stage (·.clearViolation)) milestones :=
      (chronicled.afterPoll flight.slot.stage acted).settled flight result
    exact stride_fail run settled rfl (.inr polled.state) rounds
      ((visits_in_flight polled.isFlight).trans length.symm) _
  | fail flight stage scene failure polled =>
    obtain ⟨turn, earlier, acts, engaged, acted⟩ := exists_acted sound polled
    have later := ofPast_afterPoll_settled job engaged acted (.error failure)
    have rounds := rounds_of_unclean engaged.turns engaged.result later
      (Turn.isClean_ended_error _ failure)
    have length := length_turns_of_latest engaged.turns later
    have settled := (chronicled.afterPoll flight.slot.stage acted).settled flight (.error failure)
    exact stride_fail run settled rfl (.inr polled.state) rounds
      ((visits_in_flight polled.isFlight).trans length.symm) _
  | finish flight stage scene polled accepted violation =>
    obtain ⟨turn, earlier, acts, engaged, acted⟩ := exists_acted sound polled
    obtain ⟨reports, finished⟩ := finish_eq sound.toWired engaged acted
    have settled := (chronicled.afterPoll flight.slot.stage acted).settled flight (.ok ())
    have goesOn := congrArg Run.state finished
    have routed := settled.route goesOn
    have before : ((run.afterPoll job flight.slot.stage scene).settled flight (.ok ())).state =
        .delivering := polled.state
    rw [before] at routed
    have clean := Turn.isClean_ended_ok ((isRefused_eq_violation engaged acted).trans violation)
    have later : Turn.ofPast (((run.afterPoll job flight.slot.stage scene).settled flight
        (.ok ())).route job flight.slot.stage).past =
          (turn.extend acts).ended (.ok ()) :: earlier :=
      (congrArg (Turn.ofPast ·.past) finished).trans ((Turn.ofPast_reports reports _).trans
        (ofPast_afterPoll_settled job engaged acted (.ok ())))
    refine ⟨_, .returned polled.state goesOn ?_ ?_, routed⟩
    · rw [rounds_of_latest engaged.turns, rounds_of_latest later, clean,
        Turn.isClean_of_underWay engaged.result]
      simp
    · rw [visits_in_flight polled.isFlight, ← length_turns_of_latest engaged.turns later]
      exact visits_at_rest (by simp [goesOn])
  | stop =>
    refine ⟨_, .still rfl rfl rfl rfl rfl, ?_⟩
    rw [List.append_nil]
    exact chronicled

/-- **A step adds to the milestones** what it does. -/
theorem stride_step (sound : Sound job run) (chronicled : Chronicled job run milestones) :
    ∃ more, Stride job run (run.step job) more ∧
      Chronicled job (run.step job) (milestones ++ more) := by
  have awake : Chronicled job run.awake milestones := chronicled
  obtain ⟨more, stride, later⟩ := stride_of_move sound.awake (move_step sound) awake
  refine ⟨more, ?_, later⟩
  cases stride with
  | still state outcome steps rounds visits => exact .still state outcome steps rounds visits
  | announced before state rounds visits => exact .announced before state rounds visits
  | chosen before state rounds visits => exact .chosen before state rounds visits
  | returned before state rounds visits => exact .returned before state rounds visits
  | succeeded summary before state outcome rounds visits =>
    exact .succeeded summary before state outcome rounds visits
  | failed error before state outcome rounds visits =>
    exact .failed error before state outcome rounds visits

/-! ## (3) Courses -/

/-- **The milestones of a run**, by its state, its rounds and its outcome. -/
inductive Course (job : Job T η) (run : Run T η) : List Milestone → Prop where
  | seeded (state : run.state = .seeded) (fresh : run.rounds = 0) : Course job run []
  | running (state : run.state = .running) : Course job run (job.beginning run.rounds)
  | delivering (state : run.state = .delivering) :
      Course job run (job.beginning run.rounds ++ [.change .running .delivering])
  /-- The run has succeeded. -/
  | terminated (summary : RunSummary) (state : run.state = .terminated)
      (outcome : run.outcome = some (.ok summary)) :
      Course job run (job.beginning run.rounds ++
        .change .running .terminated :: job.told summary.completedEvent)
  /-- The run has failed before a further message was chosen. -/
  | failedChoosing (error : RunError) (state : run.state = .failed)
      (outcome : run.outcome = some (.error error)) :
      Course job run (job.beginning run.rounds ++
        .change .running .failed :: job.told (failedEvent job run error))
  /-- The run has failed with a callback. -/
  | failedDelivering (error : RunError) (state : run.state = .failed)
      (outcome : run.outcome = some (.error error)) :
      Course job run (job.beginning run.rounds ++
        .change .running .delivering :: .change .delivering .failed ::
          job.told (failedEvent job run error))

/-- **A step stays on course.** -/
theorem Course.step (course : Course job run milestones) (stride : Stride job run next more) :
    Course job next (milestones ++ more) := by
  cases stride with
  | still state outcome steps rounds =>
    rw [List.append_nil]
    cases course with
    | seeded before fresh => exact .seeded (state.trans before) (rounds.trans fresh)
    | running before =>
      rw [← rounds]
      exact .running (state.trans before)
    | delivering before =>
      rw [← rounds]
      exact .delivering (state.trans before)
    | terminated summary before ended =>
      rw [← rounds]
      exact .terminated summary (state.trans before) (outcome.trans ended)
    | failedChoosing error before ended =>
      rw [← rounds, ← failedEvent_congr steps error]
      exact .failedChoosing error (state.trans before) (outcome.trans ended)
    | failedDelivering error before ended =>
      rw [← rounds, ← failedEvent_congr steps error]
      exact .failedDelivering error (state.trans before) (outcome.trans ended)
  | announced before state rounds =>
    cases course with
    | seeded _ fresh =>
      have none : next.rounds = 0 := rounds.trans fresh
      have running : Course job next (job.beginning next.rounds) := .running state
      rw [none] at running
      exact running
    | running other | delivering other | terminated _ other | failedChoosing _ other
    | failedDelivering _ other => cases before.symm.trans other
  | chosen before state rounds =>
    cases course with
    | running =>
      rw [← rounds]
      exact .delivering state
    | seeded other | delivering other | terminated _ other | failedChoosing _ other
    | failedDelivering _ other => cases before.symm.trans other
  | returned before state rounds =>
    cases course with
    | delivering =>
      have running : Course job next (job.beginning next.rounds) := .running state
      rw [rounds, Job.beginning_succ] at running
      rw [List.append_assoc]
      exact running
    | seeded other | running other | terminated _ other | failedChoosing _ other
    | failedDelivering _ other => cases before.symm.trans other
  | succeeded summary before state outcome rounds =>
    cases course with
    | running =>
      rw [← rounds]
      exact .terminated summary state outcome
    | seeded other | delivering other | terminated _ other | failedChoosing _ other
    | failedDelivering _ other => cases before.symm.trans other
  | failed error before state outcome rounds =>
    cases course with
    | running isRunning =>
      rw [← rounds, isRunning]
      exact .failedChoosing error state outcome
    | delivering isDelivering =>
      rw [← rounds, isDelivering, List.append_assoc]
      exact .failedDelivering error state outcome
    | seeded other | terminated _ other | failedChoosing _ other | failedDelivering _ other =>
      rcases before with running | delivering
      · cases running.symm.trans other
      · cases delivering.symm.trans other

/-- **Every run is on course** in every state that it comes to. -/
theorem course_after (job : Job T η) (received : η) (memory : T.Memory) (n : Nat) :
    ∃ milestones, Course job ((seed job received memory).after job n) milestones ∧
      Chronicled job ((seed job received memory).after job n) milestones := by
  induction n with
  | zero => exact ⟨[], .seeded rfl rfl, Chronicle.nil job.sink⟩
  | succ n ih =>
    obtain ⟨milestones, course, chronicled⟩ := ih
    obtain ⟨more, stride, later⟩ := stride_step (sound_after job received memory n) chronicled
    exact ⟨milestones ++ more, course.step stride, later⟩

/-! ## (4) Events -/

/-- **The only event up to the choice of a message** is that of the start. -/
theorem events_beginning (job : Job T η) (rounds : Nat) :
    (job.beginning rounds).filterMap Milestone.event? =
      (job.told (startedEvent job)).filterMap Milestone.event? := by
  have quiet : ((List.replicate rounds [Milestone.change .running .delivering,
      .change .delivering .running]).flatten).filterMap Milestone.event? = [] := by
    apply List.filterMap_eq_nil_iff.mpr
    intro milestone member
    obtain ⟨round, isRound, isPart⟩ := List.mem_flatten.mp member
    rw [List.eq_of_mem_replicate isRound] at isPart
    rcases List.mem_pair.mp isPart with rfl | rfl <;> rfl
  rw [Job.beginning, List.filterMap_append, List.filterMap_cons, quiet]
  exact List.append_nil _

/-- **The state tells of success.** -/
theorem Phase.terminated_iff (phase : run.Phase) :
    run.state = .terminated ↔ ∃ summary, run.outcome = some (.ok summary) := by
  cases phase with
  | atRest state outcome => rcases state with state | state <;> simp [state, outcome]
  | chosen _ state outcome => simp [state, outcome]
  | inFlight _ state outcome => simp [state, outcome]
  | succeeded _ state outcome => simp [state, outcome]
  | failed _ state outcome => simp [state, outcome]

/-- **The state tells of failure.** -/
theorem Phase.failed_iff (phase : run.Phase) :
    run.state = .failed ↔ ∃ error, run.outcome = some (.error error) := by
  cases phase with
  | atRest state outcome => rcases state with state | state <;> simp [state, outcome]
  | chosen _ state outcome => simp [state, outcome]
  | inFlight _ state outcome => simp [state, outcome]
  | succeeded _ state outcome => simp [state, outcome]
  | failed _ state outcome => simp [state, outcome]

/-- **The events of a run that has failed**, if events are wanted: its start and its failure. -/
theorem events_of_failed (sound : Sound job run) (course : Course job run milestones)
    (chronicled : Chronicled job run milestones) {error : RunError}
    (failed : run.outcome = some (.error error)) (wanted : job.config.emitEvents = true) :
    Journal.events run.journal = [startedEvent job, failedEvent job run error] := by
  have isFailed := sound.phase.failed_iff.mpr ⟨error, failed⟩
  have told (event : Event) : (job.told event).filterMap Milestone.event? = [event] := by
    rw [Job.told, if_pos wanted]
    rfl
  rw [chronicled.events_eq]
  cases course with
  | seeded other | running other | delivering other | terminated _ other =>
    cases isFailed.symm.trans other
  | failedChoosing cause state outcome =>
    cases failed.symm.trans outcome
    rw [List.filterMap_append, events_beginning, told, List.filterMap_cons, Milestone.event?, told]
    rfl
  | failedDelivering cause state outcome =>
    cases failed.symm.trans outcome
    rw [List.filterMap_append, events_beginning, told, List.filterMap_cons, Milestone.event?,
      List.filterMap_cons, Milestone.event?, told]
    rfl

end Run

end Relay
