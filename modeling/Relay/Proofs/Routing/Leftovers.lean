import Relay.Proofs.Privacy.Frame

/-!
# What lies at a stage

What a callback has sent to its neighbours lies in the outbox of its stage until the callback has
ended well, and so does the memory of a request that it could not send. A run that fails lets both
lie where they are. Otherwise nothing of it is ever there without the callback, neither between two
steps nor at any moment of a poll, and the items on their way to the caller are not even there
between two polls.

* `Run.Moment` are the moments of a run, with the scenes that its polls go through among them.
* `Run.left_after` says what may lie at a stage in each state that a run comes to.
* `Run.tidy_of_moment` says what this comes to at each moment.
-/

namespace Relay

variable {T : Traffic} {η : Type}

/-! ## (1) Moments -/

namespace Run

/-- **The run in the middle of a poll**, when the scene is such. -/
def amid (run : Run T η) (index : Nat) (scene : Callback.Scene T) : Run T η :=
  { run with
    stages := run.stages.set index scene.stage
    memory := scene.memory
    past := scene.past }

/-- **The moments of a run** from one state on: the state itself and, if a callback is in flight,
all that its next poll goes through. -/
inductive Moment (run : Run T η) : Run T η → Prop where
  | between : Moment run run
  | amid (flight : Flight T) (stage : Stage T) (scene : Callback.Scene T)
      (isFlight : run.flight = some flight)
      (found : run.stages[flight.slot.stage]? = some stage)
      (passed : scene ∈ flight.callback.scenes ⟨stage, run.memory, run.past⟩) :
      Moment run (run.amid flight.slot.stage scene)

end Run

/-! ## (2) What is held of a turn -/

/-- **What a stage holds of a turn**: what has been sent to its neighbours in it, and the memory of
a refused request. -/
structure Stage.Holds (stage : Stage T) (turn : Turn T) : Prop where
  outbox : stage.outbox = stage.toNeighbours turn.sent
  violation : stage.violation = true → turn.isRefused = true
  request?_of_isLast : stage.isLast = true → ∀ message ∈ turn.sent, message.request? = none

namespace Stage.Holds

variable {stage : Stage T} {turn : Turn T}

/-- What is held has been sent. -/
theorem mem_sent (holds : stage.Holds turn) {message : Outgoing T}
    (lies : message ∈ stage.outbox) : message ∈ turn.sent := by
  rw [holds.outbox, toNeighbours] at lies
  split at lies
  · exact List.mem_of_mem_filter lies
  · exact lies

/-- **At the last stage lies no request.** -/
theorem request?_eq_none (holds : stage.Holds turn) (last : stage.isLast = true)
    {message : Outgoing T} (lies : message ∈ stage.outbox) : message.request? = none :=
  holds.request?_of_isLast last message (holds.mem_sent lies)

/-- **Where items go straight to the caller lies no item.** -/
theorem item?_eq_none (holds : stage.Holds turn) (feeds : stage.feedsCaller = true)
    {message : Outgoing T} (lies : message ∈ stage.outbox) : message.item? = none := by
  rw [holds.outbox, toNeighbours, if_pos feeds] at lies
  simpa using (List.mem_filter.mp lies).2

/-- Items for the caller are no part of it. -/
theorem of_clearCaller (holds : stage.clearCaller.Holds turn) : stage.Holds turn := by
  have feeds : stage.clearCaller.feedsCaller = stage.feedsCaller := by
    simp [feedsCaller, clearCaller]
  refine ⟨?_, holds.violation, holds.request?_of_isLast⟩
  have outbox : stage.outbox = stage.clearCaller.toNeighbours turn.sent := holds.outbox
  rw [outbox, toNeighbours, toNeighbours, feeds]

end Stage.Holds

namespace Run

variable {job : Job T η} {run next : Run T η} {index : Nat} {stage : Stage T}

/-- The stage of a callback in flight holds its turn so far. -/
theorem Engaged.holds {flight : Flight T} {turn : Turn T} {earlier : List (Turn T)}
    (engaged : Engaged job run flight stage turn earlier) : stage.Holds turn where
  outbox := engaged.outbox
  violation violated := engaged.violation ▸ violated
  request?_of_isLast := engaged.request?_of_isLast

/-- **Whether a run has failed with a callback of a stage**, which has not ended well. -/
def HasDroppedAt (run : Run T η) (index : Nat) : Prop :=
  run.state = .failed ∧ ∃ turn earlier, Turn.ofPast run.past = turn :: earlier ∧
    turn.call.stage = index ∧ turn.isClean = false

/-- **What may lie at a stage**: nothing, or what it holds of the latest turn, if the callback of
that turn is in flight or the run has failed with it. -/
inductive Left (run : Run T η) (index : Nat) (stage : Stage T) : Prop where
  | nothing (outbox : stage.outbox = []) (violation : stage.violation = false)
  | held (turn : Turn T) (holds : stage.Holds turn)
      (owner : run.IsBusyAt index ∨ run.HasDroppedAt index)

/-! ## (3) Runs -/

/-- As long as a run has no outcome, what lies at a stage is of the callback in flight. -/
theorem left_of_unfinished (sound : Sound job run) (unfinished : run.outcome = none)
    (found : run.stages[index]? = some stage) : run.Left index stage := by
  by_cases busy : run.IsBusyAt index
  · obtain ⟨flight, isFlight, rfl⟩ := busy
    obtain ⟨same, turn, earlier, engaged⟩ := sound.engaged flight isFlight
    obtain rfl := Option.some.inj (engaged.found.symm.trans found)
    exact .held turn engaged.holds (.inl ⟨flight, isFlight, rfl⟩)
  · obtain ⟨outbox, violation⟩ := sound.idle unfinished found
      fun flight isFlight here => busy ⟨flight, isFlight, here⟩
    exact .nothing outbox violation

/-- A run that fails between two callbacks leaves nothing lying. -/
theorem left_fail_of_idle (sound : Sound job run) (unfinished : run.outcome = none)
    (idle : run.flight = none) (error : RunError)
    (found : (run.fail job error).stages[index]? = some stage) :
    (run.fail job error).Left index stage := by
  rw [stages_fail] at found
  obtain ⟨outbox, violation⟩ := sound.idle unfinished found
    fun flight isFlight => by cases idle.symm.trans isFlight
  exact .nothing outbox violation

/-- **A run that fails with a callback** lets lie what its stage holds of it. -/
theorem left_fail_of_polled {flight : Flight T} {before : Stage T}
    {status : Callback.Status T Unit} {scene : Callback.Scene T} {dropped : Run T η}
    {replaced : Stage T} {turn : Turn T} {earlier : List (Turn T)} (sound : Sound job run)
    (polled : run.Polled flight before status scene)
    (stages : dropped.stages = run.stages.set flight.slot.stage replaced)
    (turns : Turn.ofPast dropped.past = turn :: earlier)
    (place : turn.call.stage = flight.slot.stage) (unclean : turn.isClean = false)
    (holds : replaced.Holds turn) (error : RunError)
    (found : (dropped.fail job error).stages[index]? = some stage) :
    (dropped.fail job error).Left index stage := by
  rw [stages_fail, stages] at found
  rcases getElem?_set_cases found with ⟨rfl, rfl⟩ | ⟨elsewhere, isOld⟩
  · refine .held turn holds (.inr ⟨state_fail job dropped error, turn, earlier, ?_, place, unclean⟩)
    rw [ofPast_fail, turns]
  · obtain ⟨outbox, violation⟩ := sound.idle polled.outcome isOld fun other isFlight => by
      obtain rfl := Option.some.inj (polled.isFlight.symm.trans isFlight)
      exact Ne.symm elsewhere
    exact .nothing outbox violation

/-- **What a move leaves lying.** -/
theorem left_of_move (sound : Sound job run) (move : Move job run next)
    (left : ∀ {index stage}, run.stages[index]? = some stage → run.Left index stage)
    (found : next.stages[index]? = some stage) : next.Left index stage := by
  have later := sound_of_move sound move
  cases move with
  | announce state =>
    obtain ⟨reports, announced⟩ := run.announce_eq job
    refine left_of_unfinished later ?_ found
    rw [announced]
    exact (sound.atRest state (.inl rfl)).1
  | succeed state eop =>
    obtain ⟨unfinished, idle, -⟩ := sound.atRest state (.inr rfl)
    obtain ⟨reports, succeeded⟩ := run.succeed_eq job
    rw [succeeded] at found
    obtain ⟨outbox, violation⟩ := sound.idle unfinished found
      fun flight isFlight => by cases idle.symm.trans isFlight
    exact .nothing outbox violation
  | starve state =>
    obtain ⟨unfinished, idle, -⟩ := sound.atRest state (.inr rfl)
    exact left_fail_of_idle sound unfinished idle _ found
  | exceed slot limit state =>
    obtain ⟨unfinished, idle, -⟩ := sound.atRest state (.inr rfl)
    exact left_fail_of_idle sound unfinished idle _ found
  | choose slot state => exact left_of_unfinished later (sound.atRest state (.inr rfl)).1 found
  | start slot stage processor message rest state unfinished =>
    exact left_of_unfinished later unfinished found
  | refuse flight before status scene failure polled refused =>
    obtain ⟨turn, earlier, acts, engaged, acted⟩ := exists_acted sound polled
    have still := engaged_afterPoll job engaged acted
    exact left_fail_of_polled sound polled rfl still.turns still.place
      (Turn.isClean_of_underWay still.result) still.holds _ found
  | wait flight before scene rest polled accepted =>
    exact left_of_unfinished later polled.outcome found
  | overreach flight before scene result polled accepted violation =>
    obtain ⟨turn, earlier, acts, engaged, acted⟩ := exists_acted sound polled
    have still := engaged_afterPoll job engaged acted
    have refused : (turn.extend acts).isRefused = true := still.violation ▸ violation
    -- The attempt is no longer remembered; the outbox is as it was.
    have holds : scene.stage.clearCaller.clearViolation.Holds ((turn.extend acts).ended result) :=
      ⟨still.outbox, (fun violated => by cases violated), still.request?_of_isLast⟩
    have stages : (((run.afterPoll job flight.slot.stage scene).settled flight result).modifyStage
        flight.slot.stage (·.clearViolation)).stages =
          run.stages.set flight.slot.stage scene.stage.clearCaller.clearViolation := by
      rw [modifyStage_eq _ (getElem?_settled job scene result polled.found)]
      exact List.set_set _
    exact left_fail_of_polled sound polled stages
      (ofPast_afterPoll_settled job engaged acted result) still.place
      (Turn.isClean_of_isRefused refused) holds _ found
  | fail flight before scene failure polled accepted violation =>
    obtain ⟨turn, earlier, acts, engaged, acted⟩ := exists_acted sound polled
    have still := engaged_afterPoll job engaged acted
    have holds : scene.stage.clearCaller.Holds ((turn.extend acts).ended (.error failure)) :=
      ⟨still.outbox, still.holds.violation, still.request?_of_isLast⟩
    exact left_fail_of_polled sound polled rfl
      (ofPast_afterPoll_settled job engaged acted (.error failure)) still.place
      (Turn.isClean_ended_error _ failure) holds _ found
  | finish flight before scene polled accepted violation =>
    obtain ⟨turn, earlier, acts, engaged, acted⟩ := exists_acted sound polled
    obtain ⟨reports, finished⟩ := finish_eq sound.toWired engaged acted
    refine left_of_unfinished later ?_ found
    rw [finished]
    exact polled.outcome
  | stop isTerminal => exact left found

/-- **What may lie at a stage** in any state that a run comes to. -/
theorem left_after (job : Job T η) (received : η) (memory : T.Memory) (n : Nat)
    (found : ((seed job received memory).after job n).stages[index]? = some stage) :
    ((seed job received memory).after job n).Left index stage := by
  induction n generalizing index stage with
  | zero => exact left_of_unfinished (sound_seed job received memory) rfl found
  | succ n ih =>
    have sound := sound_after job received memory n
    refine left_of_move sound.awake (move_step sound) (fun isOld => ?_) found
    -- To be told of a pause or not makes no difference.
    rcases ih isOld with ⟨outbox, violation⟩ | ⟨turn, holds, owner⟩
    · exact .nothing outbox violation
    · exact .held turn holds owner

/-! ## (4) Tidy moments -/

/-- **A tidy moment.** All stages are there and know their places. At the last one lies no request,
at the first one no item; and nothing lies at a stage but what a callback in flight has put there,
or the one that the run has failed with. Items wait for the caller only at the first stage, and only
while its callback is under way. -/
structure Tidy (job : Job T η) (moment : Run T η) : Prop where
  length : moment.stages.length = job.pipeline.size
  place : ∀ {index : Nat} {stage : Stage T}, moment.stages[index]? = some stage →
    stage.index = index ∧ stage.stageCount = job.pipeline.size
  last : ∀ {index : Nat} {stage : Stage T}, moment.stages[index]? = some stage →
    index + 1 = job.pipeline.size → ∀ message ∈ stage.outbox, message.request? = none
  first : ∀ {stage : Stage T}, moment.stages[0]? = some stage →
    ∀ message ∈ stage.outbox, message.item? = none
  owner : ∀ {index : Nat} {stage : Stage T}, moment.stages[index]? = some stage →
    stage.outbox ≠ [] ∨ stage.violation = true →
    moment.IsBusyAt index ∨ moment.HasDroppedAt index
  caller : ∀ {index : Nat} {stage : Stage T}, moment.stages[index]? = some stage →
    stage.callerQueue ≠ [] → index = 0 ∧ moment.IsBusyAt 0

/-- **Every state that a run comes to is tidy.** -/
theorem tidy_after (job : Job T η) (received : η) (memory : T.Memory) (n : Nat) :
    Tidy job ((seed job received memory).after job n) := by
  have sound := sound_after job received memory n
  refine ⟨sound.length_eq, fun found => ⟨sound.index_eq found, sound.stageCount_eq found⟩,
    ?last, ?first, ?owner, ?caller⟩
  case last =>
    intro index stage found last message lies
    rcases left_after job received memory n found with ⟨outbox, -⟩ | ⟨turn, holds, -⟩
    · rw [outbox] at lies
      cases lies
    · exact holds.request?_eq_none (by simp [sound.isLast_eq found, last]) lies
  case first =>
    intro stage found message lies
    rcases left_after job received memory n found with ⟨outbox, -⟩ | ⟨turn, holds, -⟩
    · rw [outbox] at lies
      cases lies
    · exact holds.item?_eq_none (sound.feedsCaller_eq found) lies
  case owner =>
    intro index stage found lies
    rcases left_after job received memory n found with ⟨outbox, violation⟩ | ⟨-, -, owner⟩
    · rcases lies with something | violated
      · exact absurd outbox something
      · cases violation.symm.trans violated
    · exact owner
  case caller =>
    intro index stage found waits
    exact absurd (sound.callerQueue_eq_nil found) waits

/-- **Every moment of a run is tidy**, those of its polls among them. -/
theorem tidy_of_moment (job : Job T η) (received : η) (memory : T.Memory) (n : Nat)
    {moment : Run T η} (isMoment : ((seed job received memory).after job n).Moment moment) :
    Tidy job moment := by
  have tidy := tidy_after job received memory n
  have sound := sound_after job received memory n
  cases isMoment with
  | between => exact tidy
  | amid flight stage scene isFlight found passed =>
    obtain ⟨acts, acted⟩ := Callback.acted_of_mem_scenes passed
    obtain ⟨same, turn, earlier, engaged⟩ := sound.engaged flight isFlight
    obtain rfl := Option.some.inj (found.symm.trans engaged.found)
    have holds := (engaged_afterPoll job engaged acted).holds.of_clearCaller
    have busy : (((seed job received memory).after job n).amid flight.slot.stage scene).IsBusyAt
        flight.slot.stage := ⟨flight, isFlight, rfl⟩
    have sameIndex : scene.stage.index = stage.index := by rw [acted.stage]; rfl
    have sameCount : scene.stage.stageCount = stage.stageCount := by rw [acted.stage]; rfl
    have feeds : scene.stage.feedsCaller = stage.feedsCaller := by
      rw [acted.stage]
      simp [Stage.feedsCaller, Stage.acted]
    -- At the stage of the callback lies what it has sent so far; the others are as they were.
    refine ⟨?length, ?place, ?last, ?first, ?owner, ?caller⟩
    case length => exact List.length_set.trans tidy.length
    case place =>
      intro index other isThere
      rcases getElem?_set_cases isThere with ⟨rfl, rfl⟩ | ⟨-, isOld⟩
      · rw [sameIndex, sameCount]
        exact tidy.place found
      · exact tidy.place isOld
    case last =>
      intro index other isThere last message lies
      rcases getElem?_set_cases isThere with ⟨rfl, rfl⟩ | ⟨-, isOld⟩
      · refine holds.request?_eq_none ?_ lies
        rw [Stage.isLast, sameIndex, sameCount, ← Stage.isLast, sound.isLast_eq found]
        simpa using last
      · exact tidy.last isOld last message lies
    case first =>
      intro other isThere message lies
      rcases getElem?_set_cases isThere with ⟨isFirst, rfl⟩ | ⟨-, isOld⟩
      · refine holds.item?_eq_none ?_ lies
        rw [feeds, sound.feedsCaller_eq found, ← isFirst]
        rfl
      · exact tidy.first isOld message lies
    case owner =>
      intro index other isThere lies
      rcases getElem?_set_cases isThere with ⟨rfl, rfl⟩ | ⟨-, isOld⟩
      · exact .inl busy
      · rcases tidy.owner isOld lies with busyThere | ⟨failed, -⟩
        · exact .inl busyThere
        · cases (sound.inFlight isFlight).1.symm.trans failed
    case caller =>
      intro index other isThere waits
      rcases getElem?_set_cases isThere with ⟨rfl, rfl⟩ | ⟨-, isOld⟩
      · -- Only the first stage has got a caller to send items to.
        by_cases isFirst : flight.slot.stage = 0
        · exact ⟨isFirst, isFirst ▸ busy⟩
        · have noCaller : stage.caller = none := by
            rw [sound.caller found, if_neg isFirst]
          refine absurd ?_ waits
          rw [acted.stage, Stage.callerQueue, Stage.acted]
          simp [noCaller]
      · exact tidy.caller isOld waits

end Run

end Relay
