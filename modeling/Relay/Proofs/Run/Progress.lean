import Relay.Proofs.Run.Growth
import Relay.Proofs.Run.Orderly

/-!
# Runs make progress

A callback is done with after finitely many polls, because each poll that ends in a pause leaves
strictly less of it to do. So every run that has not come to its end starts another callback sooner
or later.

* `Callback.wellFounded_leaves` allows induction on what polls leave to do.
* `Run.exists_idle` and `Run.exists_longer` say what it comes to for runs.
-/

namespace Relay

variable {T : Traffic} {η : Type}

/-! ## (1) Polls of a callback -/

namespace Callback

variable {α : Type}

/-- **What a poll may leave to do** of a callback that pauses in it. -/
def Leaves (callback rest : Callback T α) : Prop :=
  ∃ scene later, callback.poll scene = (.waiting rest, later)

/-- **A poll leaves strictly less to do.** -/
theorem wellFounded_leaves :
    WellFounded fun rest callback : Callback T α => callback.Leaves rest := by
  refine ⟨fun callback => ?_⟩
  -- What is left of a callback has been left of one that comes next in it, or comes next itself.
  induction callback with
  | done result => exact .intro _ fun rest ⟨_, _, left⟩ => by cases left
  | fail failure => exact .intro _ fun rest ⟨_, _, left⟩ => by cases left
  | pause next ih =>
    refine .intro _ ?_
    rintro rest ⟨scene, later, left⟩
    cases left
    exact ih
  | look next ih =>
    exact .intro _ fun rest ⟨scene, later, left⟩ => (ih _).inv ⟨scene, later, left⟩
  | keep data next ih => exact .intro _ fun rest ⟨_, later, left⟩ => ih.inv ⟨_, later, left⟩
  | sendRequest request next ih =>
    exact .intro _ fun rest ⟨_, later, left⟩ => (ih _).inv ⟨_, later, left⟩
  | sendReply reply next ih => exact .intro _ fun rest ⟨_, later, left⟩ => ih.inv ⟨_, later, left⟩
  | note entry next ih => exact .intro _ fun rest ⟨_, later, left⟩ => ih.inv ⟨_, later, left⟩
  | consult next ih =>
    exact .intro _ fun rest ⟨scene, later, left⟩ => (ih _).inv ⟨scene, later, left⟩
  | remember memory next ih =>
    exact .intro _ fun rest ⟨_, later, left⟩ => ih.inv ⟨_, later, left⟩

end Callback

namespace Run

variable {job : Job T η} {run : Run T η}

/-! ## (2) Callbacks of a run -/

/-- A step earlier, a run has taken one step less. -/
theorem after_step (job : Job T η) (run : Run T η) (n : Nat) :
    (run.step job).after job n = run.after job (n + 1) := by
  rw [Nat.add_comm, after_add]
  rfl

/-- A failure drops the callback in flight. -/
theorem flight_fail (job : Job T η) (run : Run T η) (error : RunError) :
    (run.fail job error).flight = none := by
  obtain ⟨reports, failed⟩ := run.fail_eq job error
  rw [failed]

/-- **A move with a callback in flight** is done with it, or leaves what is left of it. -/
theorem flight_of_move {next : Run T η} (sound : Sound job run) (move : Move job run next)
    {flight : Flight T} (isFlight : run.flight = some flight) :
    next.flight = none ∨ ∃ rest, flight.callback.Leaves rest ∧
      next.flight = some { flight with callback := rest } := by
  obtain ⟨delivering, -, -⟩ := sound.inFlight isFlight
  cases move with
  | announce state => cases delivering.symm.trans state
  | succeed state => cases delivering.symm.trans state
  | starve state => cases delivering.symm.trans state
  | exceed slot limit state => cases delivering.symm.trans state
  | choose slot state => cases delivering.symm.trans state
  | start slot stage processor message rest state outcome idle => cases idle.symm.trans isFlight
  | refuse => exact .inl (flight_fail job _ _)
  | wait other stage scene rest polled =>
    obtain rfl := Option.some.inj (isFlight.symm.trans polled.isFlight)
    exact .inr ⟨rest, ⟨_, _, polled.polled⟩, rfl⟩
  | overreach => exact .inl (flight_fail job _ _)
  | fail => exact .inl (flight_fail job _ _)
  | finish other stage scene polled =>
    obtain ⟨turn, earlier, acts, engaged, acted⟩ := exists_acted sound polled
    obtain ⟨reports, finished⟩ := finish_eq sound.toWired engaged acted
    rw [finished]
    exact .inl rfl
  | stop isTerminal => cases (congrArg RunState.isTerminal delivering).symm.trans isTerminal

/-- **A callback in flight does not stay so for ever.** -/
theorem exists_idle (sound : Sound job run) : ∃ n, (run.after job n).flight = none := by
  cases isFlight : run.flight with
  | none => exact ⟨0, isFlight⟩
  | some flight =>
    -- Induction on what is left to do of its callback.
    induction callback : flight.callback using Callback.wellFounded_leaves.induction
      generalizing run flight with
    | _ _ ih =>
      subst callback
      rcases flight_of_move sound.awake (move_step sound) isFlight with done | ⟨rest, leaves, still⟩
      · exact ⟨1, done⟩
      · obtain ⟨n, idle⟩ := ih rest leaves (sound_step sound) _ still rfl
        exact ⟨n + 1, by rw [← after_step]; exact idle⟩

/-! ## (3) Turns of a run -/

/-- A step takes no turn back. -/
theorem length_turns_le_step (sound : Sound job run) :
    run.turns.length ≤ (run.step job).turns.length := by
  cases change_step sound with
  | still turns => exact Nat.le_of_eq (congrArg (·.reverse.length) turns.symm)
  | opened slot call turns => simp [Run.turns, turns]
  | acted turn late earlier sent before turns => simp [Run.turns, turns, before]

/-- **No turn is ever taken back.** -/
theorem length_turns_le (sound : Sound job run) (n : Nat) :
    run.turns.length ≤ (run.after job n).turns.length := by
  induction n with
  | zero => exact Nat.le_refl _
  | succ n ih => exact Nat.le_trans ih (length_turns_le_step (sound.after n))

/-- **A run that has chosen a message** starts a callback for it. -/
theorem exists_opened (sound : Sound job run) (state : run.state = .delivering)
    (idle : run.flight = none) :
    ∃ slot stage processor message rest, run.current = some slot ∧
      run.stages[slot.stage]? = some stage ∧ stage.pop? slot.kind = some (message, rest) ∧
      run.step job = run.awake.opened slot processor message rest := by
  obtain ⟨slot, current, ready, -⟩ := sound.exists_chosen state idle
  obtain ⟨stage, processor, message, rest, found, hasProcessor, popped⟩ :=
    sound.exists_popped ready
  have started : run.awake.start job slot = run.awake.opened slot processor message rest :=
    start_eq found hasProcessor popped
  exact ⟨slot, stage, processor, message, rest, current, found, popped,
    (step_of_chosen state idle current).trans started⟩

/-- With a callback started there is one more turn. -/
theorem length_turns_step_of_chosen (sound : Sound job run) (state : run.state = .delivering)
    (idle : run.flight = none) : (run.step job).turns.length = run.turns.length + 1 := by
  obtain ⟨slot, stage, processor, message, rest, -, -, -, started⟩ :=
    exists_opened sound state idle
  rw [started]
  simp [Run.turns, opened, awake, Entry.tell]

/-- **A run that chooses** ends or has chosen a message. -/
theorem step_of_running_cases (sound : Sound job run) (state : run.state = .running) :
    (∃ result, (run.step job).outcome = some result) ∨
      (run.step job).state = .delivering ∧ (run.step job).flight = none := by
  obtain ⟨-, flight, -⟩ := sound.atRest state (.inr rfl)
  rw [step_of_running state]
  cases eop : run.awake.eopReached with
  | true =>
    obtain ⟨reports, succeeded⟩ := run.awake.succeed_eq job
    rw [choose_of_eop eop, succeeded]
    exact .inl ⟨_, rfl⟩
  | false =>
    cases run.ready.next? with
    | none =>
      rw [choose_none eop]
      exact .inl ⟨_, outcome_fail job _ _⟩
    | some slot =>
      cases reached : run.awake.limitReached job with
      | none =>
        rw [choose_some eop reached]
        exact .inr ⟨rfl, flight⟩
      | some limit =>
        rw [choose_of_limitReached eop reached]
        exact .inl ⟨_, outcome_fail job _ _⟩

/-- **Sooner or later a run ends or starts another callback.** -/
theorem exists_longer (sound : Sound job run) :
    ∃ n, (∃ result, (run.after job n).outcome = some result) ∨
      run.turns.length < (run.after job n).turns.length := by
  obtain ⟨k, idle⟩ := exists_idle sound
  have mid := sound.after k
  have grown := length_turns_le sound k
  -- From a run about to choose it takes two steps.
  have chooses : ∀ m, (run.after job m).state = .running →
      run.turns.length ≤ (run.after job m).turns.length →
      ∃ n, (∃ result, (run.after job n).outcome = some result) ∨
        run.turns.length < (run.after job n).turns.length := by
    intro m running least
    have sooner := sound.after m
    rcases step_of_running_cases sooner running with ended | ⟨delivering, chosen⟩
    · exact ⟨m + 1, .inl ended⟩
    · have started := length_turns_step_of_chosen (sound_step sooner) delivering chosen
      have kept := length_turns_le_step sooner
      refine ⟨m + 2, .inr ?_⟩
      rw [after, after, started]
      omega
  cases mid.phase with
  | succeeded summary _ outcome => exact ⟨k, .inl ⟨_, outcome⟩⟩
  | failed error _ outcome => exact ⟨k, .inl ⟨_, outcome⟩⟩
  | inFlight flight _ _ isFlight => cases idle.symm.trans isFlight
  | chosen slot state =>
    have started := length_turns_step_of_chosen mid state idle
    refine ⟨k + 1, .inr ?_⟩
    rw [after, started]
    omega
  | atRest state =>
    rcases state with seeded | running
    · have kept := length_turns_le_step mid
      refine chooses (k + 1) ?_ (Nat.le_trans grown kept)
      rw [after, step_of_seeded seeded]
      rfl
    · exact chooses k running grown

end Run

end Relay
