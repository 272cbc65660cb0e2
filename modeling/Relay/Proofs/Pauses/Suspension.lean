import Relay.Proofs.Run.Progress

/-!
# How often a run is polled

A poll takes a run on until its callback pauses or the run comes to its end. So a run that is polled
to its end is polled once for each of its pauses, and once more. A pause of a callback in whose poll
an item is refused does not count: it fails the run.

* `Run.suspends` says whether a step suspends a run, without looking at what the step does.
* `Run.pollToEnd_eq` counts the polls.
-/

namespace Relay

variable {T : Traffic} {η : Type}

/-- Whether a poll leaves a callback in a pause. -/
def Callback.Status.isWaiting {α : Type} : Callback.Status T α → Bool
  | .finished _ => false
  | .waiting _ => true

namespace Run

variable {job : Job T η} {run next : Run T η}

/-! ## (1) Steps that suspend a run -/

/-- **Whether the callback in flight pauses** in the next poll. -/
def pauses (run : Run T η) : Bool :=
  match run.flight with
  | none => false
  | some flight =>
    (run.stages[flight.slot.stage]?).elim false fun stage =>
      (flight.callback.poll ⟨stage, run.memory, run.past⟩).1.isWaiting

/-- **Whether the next step suspends a run**: the callback in flight pauses, and the handler refuses
no item that it has sent. -/
def suspends (job : Job T η) (run : Run T η) : Bool :=
  run.pauses && (job.handler.offer run.received run.due).2.2.isNone

/-- **How often a run is suspended** in a number of steps. -/
def suspensions (job : Job T η) (run : Run T η) (n : Nat) : Nat :=
  (List.range n).countP fun i => (run.after job i).suspends job

/-- While no callback is in flight, nothing suspends a run. -/
theorem suspends_of_idle (job : Job T η) (idle : run.flight = none) :
    run.suspends job = false := by
  simp only [suspends, pauses, idle, Bool.false_and]

/-- Whether a poll suspends a run. -/
theorem suspends_of_polled (job : Job T η) {flight : Flight T} {stage : Stage T}
    {status : Callback.Status T Unit} {scene : Callback.Scene T}
    (polled : run.Polled flight stage status scene) :
    run.suspends job = (status.isWaiting &&
      (job.handler.offer run.received scene.stage.callerQueue).2.2.isNone) := by
  simp only [suspends, pauses, due_of_polled polled, polled.isFlight, polled.found,
    Option.elim_some, polled.polled]

/-- A failure suspends no run. -/
theorem isWaiting_fail (job : Job T η) (run : Run T η) (error : RunError) :
    (run.fail job error).isWaiting = run.isWaiting := by
  obtain ⟨reports, failed⟩ := run.fail_eq job error
  rw [failed]
  rfl

/-- **A move suspends a run** exactly if its callback pauses and nothing is refused. -/
theorem isWaiting_of_move (sound : Sound job run) (move : Move job run next)
    (awake : run.isWaiting = false) : next.isWaiting = run.suspends job := by
  -- Without a callback in flight nothing can pause; its polls are the moves from `refuse` to `finish`.
  cases move with
  | announce state =>
    obtain ⟨-, idle, -⟩ := sound.atRest state (.inl rfl)
    obtain ⟨reports, announced⟩ := run.announce_eq job
    rw [suspends_of_idle job idle, announced]
    exact awake
  | succeed state =>
    obtain ⟨-, idle, -⟩ := sound.atRest state (.inr rfl)
    obtain ⟨reports, succeeded⟩ := run.succeed_eq job
    rw [suspends_of_idle job idle, succeeded]
    exact awake
  | starve state =>
    obtain ⟨-, idle, -⟩ := sound.atRest state (.inr rfl)
    rw [suspends_of_idle job idle, isWaiting_fail, awake]
  | exceed slot limit state =>
    obtain ⟨-, idle, -⟩ := sound.atRest state (.inr rfl)
    rw [suspends_of_idle job idle, isWaiting_fail, awake]
  | choose slot state =>
    obtain ⟨-, idle, -⟩ := sound.atRest state (.inr rfl)
    rw [suspends_of_idle job idle]
    exact awake
  | start slot stage processor message rest state outcome idle =>
    rw [suspends_of_idle job idle]
    exact awake
  | refuse flight stage status scene failure polled refused =>
    rw [suspends_of_polled job polled, refused, Option.isNone_some, Bool.and_false, isWaiting_fail]
    exact awake
  | wait flight stage scene rest polled accepted =>
    rw [suspends_of_polled job polled, accepted]
    rfl
  | overreach flight stage scene result polled =>
    rw [suspends_of_polled job polled, isWaiting_fail]
    exact awake
  | fail flight stage scene failure polled =>
    rw [suspends_of_polled job polled, isWaiting_fail]
    exact awake
  | finish flight stage scene polled =>
    obtain ⟨turn, earlier, acts, engaged, acted⟩ := exists_acted sound polled
    obtain ⟨reports, finished⟩ := finish_eq sound.toWired engaged acted
    rw [suspends_of_polled job polled, finished]
    exact awake
  | stop isTerminal =>
    have idle : run.flight = none := sound.flight_eq_none fun ⟨delivering, _⟩ => by
      cases (congrArg RunState.isTerminal delivering).symm.trans isTerminal
    rw [suspends_of_idle job idle, awake]

/-- **A step suspends a run** exactly if its callback pauses and nothing is refused. -/
theorem isWaiting_step (sound : Sound job run) :
    (run.step job).isWaiting = run.suspends job := by
  have same : (run.step job).isWaiting = run.awake.suspends job :=
    isWaiting_of_move sound.awake (move_step sound) rfl
  exact same

/-- Whether a poll suspends the run. -/
theorem isWaiting_step_of_polled (sound : Sound job run) {flight : Flight T} {stage : Stage T}
    {status : Callback.Status T Unit} {scene : Callback.Scene T}
    (polled : run.awake.Polled flight stage status scene) :
    (run.step job).isWaiting = (status.isWaiting &&
      (job.handler.offer run.received scene.stage.callerQueue).2.2.isNone) := by
  have same : run.awake.suspends job = _ := suspends_of_polled job polled
  exact (isWaiting_step sound).trans same

/-- A step that suspends a run does not end it. -/
theorem isWaiting_of_isFinished (sound : Sound job run)
    (finished : (run.step job).isFinished = true) : (run.step job).isWaiting = false := by
  cases isFlight : run.flight with
  | none => exact (isWaiting_step sound).trans (suspends_of_idle job isFlight)
  | some flight =>
    obtain ⟨stage, status, scene, polled⟩ := sound.exists_polled isFlight
    rw [isWaiting_step_of_polled sound polled]
    cases status with
    | finished result => rfl
    | waiting rest =>
      -- Only a refusal ends the run in a poll that pauses.
      cases verdict : (job.handler.offer run.received scene.stage.callerQueue).2.2 with
      | some failure => rfl
      | none =>
        have state : run.state = .delivering := polled.state
        rw [step_of_inFlight state isFlight,
          pollFlight_of_waiting polled.found polled.polled verdict] at finished
        have ended : run.outcome.isSome = true := finished
        have outcome : run.outcome = none := polled.outcome
        rw [outcome] at ended
        cases ended

/-! ## (2) Polls of a run -/

/-- The suspensions of two parts of a run. -/
theorem suspensions_add (job : Job T η) (run : Run T η) (m n : Nat) :
    run.suspensions job (m + n) = run.suspensions job m + (run.after job m).suspensions job n := by
  rw [suspensions, List.range_add, List.countP_append, List.countP_map]
  refine congrArg (run.suspensions job m + ·) (List.countP_congr fun i _ => ?_)
  rw [Function.comp_apply, after_add]

/-- A single step suspends a run once, or not at all. -/
theorem suspensions_one (sound : Sound job run) :
    run.suspensions job 1 = if (run.step job).isWaiting then 1 else 0 := by
  rw [isWaiting_step sound]
  exact List.countP_singleton

/-- A run that has come to its end is not suspended any longer. -/
theorem suspensions_of_finished (sound : Sound job run) (finished : run.isFinished = true)
    (n : Nat) : run.suspensions job n = 0 := by
  refine List.countP_eq_zero.mpr fun i _ => ?_
  obtain ⟨result, outcome⟩ := Option.isSome_iff_exists.mp finished
  have still := congrArg Run.outcome (sound.awake_after outcome i)
  have idle : (run.after job i).flight = none :=
    (sound.after i).flight_eq_none fun ⟨_, unfinished, _⟩ => by
      cases unfinished.symm.trans (still.trans outcome)
  rw [suspends_of_idle job idle]
  exact Bool.false_ne_true

/-- A run that a step has brought to its end stays as it is. -/
theorem after_step_of_isFinished (sound : Sound job run)
    (finished : (run.step job).isFinished = true) (n : Nat) :
    (run.step job).after job n = run.step job := by
  obtain ⟨result, outcome⟩ := Option.isSome_iff_exists.mp finished
  have goesOn := isWaiting_of_isFinished sound finished
  have awake : (run.step job).awake = run.step job := by rw [Run.awake, ← goesOn]
  induction n with
  | zero => rfl
  | succ n ih => rw [after, ih, step_of_finished (sound_step sound) outcome, awake]

/-- **A poll** takes a run to the next step that suspends it, or to its end. -/
theorem exists_poll {n fuel : Nat} (sound : Sound job run) (unfinished : run.isFinished = false)
    (ends : (run.after job n).isFinished = true) (enough : n ≤ fuel) :
    ∃ k < n, run.poll job fuel = run.after job (k + 1) ∧
      run.suspensions job (k + 1) = if (run.after job (k + 1)).isFinished then 0 else 1 := by
  -- Induction on the steps that are left, of each of which the fuel is spent by one.
  induction n generalizing run fuel with
  | zero => cases unfinished.symm.trans ends
  | succ n ih =>
    obtain ⟨fuel, rfl⟩ := Nat.exists_eq_add_of_le' (Nat.lt_of_lt_of_le n.succ_pos enough)
    have once := suspensions_one sound
    by_cases stops : ((run.step job).isWaiting || (run.step job).isFinished) = true
    · refine ⟨0, n.succ_pos, if_pos stops, ?_⟩
      rw [once]
      cases finished : (run.step job).isFinished with
      | true =>
        have goesOn := isWaiting_of_isFinished sound finished
        have ended : (run.after job (0 + 1)).isFinished = true := finished
        rw [goesOn, ended]
        rfl
      | false =>
        have waits : (run.step job).isWaiting = true := by simpa [finished] using stops
        have ended : (run.after job (0 + 1)).isFinished = false := finished
        rw [waits, ended]
        rfl
    · have polled : run.poll job (fuel + 1) = (run.step job).poll job fuel := if_neg stops
      rw [Bool.or_eq_true, not_or, Bool.not_eq_true, Bool.not_eq_true] at stops
      have further : ((run.step job).after job n).isFinished = true := by rw [after_step]; exact ends
      obtain ⟨k, lt, same, suspensions⟩ :=
        ih (sound_step sound) stops.2 further (Nat.le_of_succ_le_succ enough)
      rw [after_step] at same suspensions
      refine ⟨k + 1, Nat.succ_lt_succ lt, polled.trans same, ?_⟩
      have first : run.suspensions job 1 = 0 := by rw [once, stops.1]; rfl
      have parts := suspensions_add job run 1 (k + 1)
      rw [first, Nat.zero_add, Nat.add_comm 1] at parts
      exact parts.trans suspensions

/-- **The number of polls** that take a run to its end is one more than the number of steps that
suspend it. -/
theorem pollToEnd_eq {n fuel polls : Nat} (sound : Sound job run)
    (unfinished : run.isFinished = false) (ends : (run.after job n).isFinished = true)
    (enough : n ≤ fuel) (often : n ≤ polls) :
    run.pollToEnd job fuel polls = (run.after job n, run.suspensions job n + 1) := by
  -- Induction on the steps that are left; a poll takes at least one of them.
  induction n using Nat.strongRecOn generalizing run polls with
  | ind n ih =>
    obtain ⟨k, lt, polled, first⟩ := exists_poll sound unfinished ends enough
    obtain ⟨polls, rfl⟩ := Nat.exists_eq_add_of_le' (Nat.le_trans (Nat.zero_lt_of_lt lt) often)
    obtain ⟨others, rfl⟩ := Nat.exists_eq_add_of_le (Nat.succ_le_of_lt lt)
    have mid := sound.after (k + 1)
    rw [after_add] at ends
    rw [after_add, suspensions_add]
    cases finished : (run.after job (k + 1)).isFinished with
    | true =>
      have still : (run.after job (k + 1)).after job others = run.after job (k + 1) :=
        after_step_of_isFinished (sound.after k) finished others
      rw [suspensions_of_finished mid finished, first, still, finished]
      simp only [pollToEnd, polled, finished, if_true]
    | false =>
      have rest := ih others (by omega) mid finished ends (by omega) (by omega : others ≤ polls)
      rw [first, finished]
      simp only [pollToEnd, polled, finished, if_false, Bool.false_eq_true, rest]
      rw [Nat.add_comm 1]

end Run

end Relay
