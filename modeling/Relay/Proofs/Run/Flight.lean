import Relay.Proofs.Run.Progress

/-!
# The callback in flight

A callback is in flight from its start until it has ended or the run has failed. It starts as what
its processor does with the message, and every poll that it survives leaves the rest of it.

* `Run.opened_of_move` and `Run.flight_of_move` say how callbacks come and go.
* `Run.callback_after` carries what holds of callbacks from their start through all pauses.
* `Run.exists_late` says what a poll adds to the turn under way.
-/

namespace Relay

variable {T : Traffic} {η : Type}

namespace Run

variable {job : Job T η} {run next : Run T η}

/-! ## (1) Starts -/

/-- **A move of a run without a callback in flight** starts one, or there is still none and nothing
has happened to stages and turns. -/
theorem opened_of_move (move : Move job run next) (idle : run.flight = none) :
    (next.flight = none ∧ next.stages = run.stages ∧
        Turn.ofPast next.past = Turn.ofPast run.past) ∨
      ∃ slot stage processor message rest, run.stages[slot.stage]? = some stage ∧
        job.pipeline.processor? slot.stage = some processor ∧
        stage.pop? slot.kind = some (message, rest) ∧
        next = run.opened slot processor message rest := by
  have failed (error : RunError) : (run.fail job error).flight = none ∧
      (run.fail job error).stages = run.stages ∧
      Turn.ofPast (run.fail job error).past = Turn.ofPast run.past := by
    refine ⟨flight_fail job run error, ?_, ofPast_fail job run error⟩
    obtain ⟨reports, fails⟩ := run.fail_eq job error
    rw [fails]
    rfl
  cases move with
  | announce =>
    obtain ⟨reports, announced⟩ := run.announce_eq job
    rw [announced, become_eq, reporting_reporting]
    exact .inl ⟨idle, rfl, Turn.ofPast_reports _ run.past⟩
  | succeed =>
    obtain ⟨reports, succeeded⟩ := run.succeed_eq job
    rw [succeeded]
    exact .inl ⟨idle, rfl, Turn.ofPast_reports _ run.past⟩
  | starve => exact .inl (failed _)
  | exceed => exact .inl (failed _)
  | choose => exact .inl ⟨idle, rfl, Turn.ofPast_reports (.ofRecord _) run.past⟩
  | start slot stage processor message rest _ _ _ _ found hasProcessor popped =>
    exact .inr ⟨slot, stage, processor, message, rest, found, hasProcessor, popped, rfl⟩
  | refuse _ _ _ _ _ polled => cases idle.symm.trans polled.isFlight
  | wait _ _ _ _ polled => cases idle.symm.trans polled.isFlight
  | overreach _ _ _ _ polled => cases idle.symm.trans polled.isFlight
  | fail _ _ _ _ polled => cases idle.symm.trans polled.isFlight
  | finish _ _ _ polled => cases idle.symm.trans polled.isFlight
  | stop => exact .inl ⟨idle, rfl, rfl⟩

/-- **What holds of callbacks** when they start, and of what polls leave of them, holds of the
callback in flight in every state of a run. -/
theorem callback_after {P : Slot → Callback T Unit → Prop}
    (starts : ∀ slot processor message, job.pipeline.processor? slot.stage = some processor →
      message.kind = slot.kind → P slot (processor.handle message))
    (leaves : ∀ slot callback rest, P slot callback → callback.Leaves rest → P slot rest)
    (received : η) (memory : T.Memory) (n : Nat) :
    ∀ flight, ((seed job received memory).after job n).flight = some flight →
      P flight.slot flight.callback := by
  induction n with
  | zero => exact fun flight isFlight => by cases isFlight
  | succ n ih =>
    intro later isLater
    have sound := sound_after job received memory n
    have move := move_step sound
    cases isFlight : ((seed job received memory).after job n).flight with
    | none =>
      rcases opened_of_move move isFlight with
        ⟨idle, -⟩ | ⟨slot, stage, processor, message, rest, -, hasProcessor, popped, opened⟩
      · cases idle.symm.trans isLater
      · have isStart := (congrArg Run.flight opened).symm.trans isLater
        obtain rfl := Option.some.inj isStart
        exact starts slot processor message hasProcessor (Stage.kind_of_pop? popped)
    | some flight =>
      rcases flight_of_move sound.awake move isFlight with done | ⟨rest, left, still⟩
      · cases done.symm.trans isLater
      · obtain rfl := Option.some.inj (still.symm.trans isLater)
        exact leaves _ _ _ (ih flight isFlight) left

/-! ## (2) Polls -/

/-- **What a poll adds to the turn under way**, and how it leaves the callback. -/
structure Late (job : Job T η) (run next : Run T η) (flight : Flight T) (stage : Stage T)
    (turn late : Turn T) (earlier : List (Turn T)) (acts : List (Entry T)) : Prop where
  engaged : run.Engaged job flight stage turn earlier
  acted : Callback.Scene.Acted ⟨stage, run.memory, run.past⟩
    (flight.callback.poll ⟨stage, run.memory, run.past⟩).2 acts
  turns : Turn.ofPast next.past = late :: earlier
  call : late.call = turn.call
  sent : late.sent = turn.sent ++ Journal.sent acts
  isRefused : late.isRefused = (turn.isRefused || Journal.isRefused acts)
  /-- The turn only ends if the callback does, and as the callback does. -/
  result : ∀ result, late.result = some result →
    (flight.callback.poll ⟨stage, run.memory, run.past⟩).1 = .finished result
  /-- The callback only stays in flight if it pauses. -/
  waiting : ∀ later, next.flight = some later → later.slot = flight.slot ∧
    (flight.callback.poll ⟨stage, run.memory, run.past⟩).1 = .waiting later.callback

/-- A turn that has ended has ended with its callback. -/
theorem Late.ended {flight : Flight T} {stage : Stage T} {turn late : Turn T}
    {earlier : List (Turn T)} {acts : List (Entry T)}
    (acted : Late job run next flight stage turn late earlier acts) (ended : late.result ≠ none) :
    ∃ result, (flight.callback.poll ⟨stage, run.memory, run.past⟩).1 = .finished result := by
  obtain ⟨result, isResult⟩ := Option.ne_none_iff_exists'.mp ended
  exact ⟨result, acted.result result isResult⟩

/-- **A move with a callback in flight** polls it, and adds what it does in the poll to its turn. -/
theorem exists_late (sound : Sound job run) (move : Move job run next) {flight : Flight T}
    (isFlight : run.flight = some flight) :
    ∃ stage turn late earlier acts, Late job run next flight stage turn late earlier acts := by
  obtain ⟨delivering, -, -⟩ := sound.inFlight isFlight
  -- Each of the five ways in which a poll can go is described by how turn and flight look then.
  have late {stage : Stage T} {status : Callback.Status T Unit} {scene : Callback.Scene T}
      {other : Flight T} (polled : run.Polled other stage status scene)
      (after : ∀ {turn earlier acts}, run.Engaged job other stage turn earlier →
        Callback.Scene.Acted ⟨stage, run.memory, run.past⟩ scene acts →
        ∃ result, Turn.ofPast next.past = { turn.extend acts with result } :: earlier ∧
          (∀ ending, result = some ending → status = .finished ending) ∧
          ∀ later, next.flight = some later →
            later.slot = other.slot ∧ status = .waiting later.callback) :
      ∃ stage turn late earlier acts, Late job run next flight stage turn late earlier acts := by
    obtain rfl := Option.some.inj (polled.isFlight.symm.trans isFlight)
    obtain ⟨turn, earlier, acts, engaged, acted⟩ := exists_acted sound polled
    obtain ⟨result, turns, ended, waiting⟩ := after engaged acted
    have same := polled.polled
    refine ⟨stage, turn, _, earlier, acts, engaged, ?_, turns, rfl, rfl, rfl, ?_, ?_⟩
    · rw [same]
      exact acted
    · rw [same]
      exact ended
    · rw [same]
      exact waiting
  have dropped {error : RunError} {before : Run T η} {P : Flight T → Prop} :
      ∀ later, (before.fail job error).flight = some later → P later := by
    intro later isLater
    cases (flight_fail job before error).symm.trans isLater
  cases move with
  | announce state => cases delivering.symm.trans state
  | succeed state => cases delivering.symm.trans state
  | starve state => cases delivering.symm.trans state
  | exceed _ _ state => cases delivering.symm.trans state
  | choose _ state => cases delivering.symm.trans state
  | start _ _ _ _ _ _ _ idle => cases idle.symm.trans isFlight
  | refuse _ _ _ _ _ polled =>
    refine late polled fun engaged acted => ⟨none, ?_, fun _ ended => (by cases ended), dropped⟩
    rw [ofPast_fail, (engaged_afterPoll job engaged acted).turns, ← engaged.result]
    rfl
  | wait _ _ _ rest polled =>
    refine late polled fun engaged acted => ⟨none, ?_, fun _ ended => (by cases ended), ?_⟩
    · rw [← engaged.result]
      exact (engaged_afterPoll job engaged acted).turns
    · rintro _ ⟨rfl⟩
      exact ⟨rfl, rfl⟩
  | overreach _ _ _ result polled =>
    exact late polled fun engaged acted => ⟨some result,
      (ofPast_fail job _ _).trans (ofPast_afterPoll_settled job engaged acted result),
      fun _ same => congrArg _ (Option.some.inj same), dropped⟩
  | fail _ _ _ failure polled =>
    exact late polled fun engaged acted => ⟨some (.error failure),
      (ofPast_fail job _ _).trans (ofPast_afterPoll_settled job engaged acted (.error failure)),
      fun _ same => congrArg _ (Option.some.inj same), dropped⟩
  | finish _ _ _ polled =>
    refine late polled fun engaged acted => ⟨some (.ok ()), ?_,
      fun _ same => congrArg _ (Option.some.inj same), ?_⟩
    · obtain ⟨reports, finished⟩ := finish_eq sound.toWired engaged acted
      rw [finished]
      exact (Turn.ofPast_reports reports _).trans
        (ofPast_afterPoll_settled job engaged acted (.ok ()))
    · obtain ⟨reports, finished⟩ := finish_eq sound.toWired engaged acted
      rw [finished]
      exact fun _ isLater => by cases isLater
  | stop isTerminal => cases (congrArg RunState.isTerminal delivering).symm.trans isTerminal

end Run

end Relay
