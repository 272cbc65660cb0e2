import Relay.Proofs.Pauses.Pausing
import Relay.Proofs.Pauses.Suspension

/-!
# Runs with and without pauses

Beside a run there is the run of its job without pauses. Between callbacks both take the same steps;
and for each callback the run without pauses takes one step, while the other one may be suspended
several times before it is done with the callback.

* `Run.Tally` is what they have in common between suspensions.
* `Run.Beside` holds in every state of the run with pauses.
* `Run.exists_tally` and `Run.exists_beside` take the two runs along each other.
-/

namespace Relay.Run

variable {T : Traffic} {η : Type} {job : Job T η} {run other third target : Run T η}

/-! ## (1) Runs that tally -/

/-- **Runs that tally**: the same processors have been called in the same order with the same
messages, the handler has been offered the same items and has said the same about them, and the
outcome is the same. Unless the handler has failed the runs, everything else is the same as well. -/
structure Tally (run other : Run T η) : Prop where
  calls : run.turns.map Turn.call = other.turns.map Turn.call
  verdicts : run.verdicts = other.verdicts
  outcome : run.outcome = other.outcome
  alike : (∀ failure, run.outcome ≠ some (.error (.handler failure))) → Alike run other

namespace Tally

theorem symm (tally : Tally run other) : Tally other run where
  calls := tally.calls.symm
  verdicts := tally.verdicts.symm
  outcome := tally.outcome.symm
  alike unrefused := (tally.alike fun failure => tally.outcome ▸ unrefused failure).symm

theorem trans (early : Tally run other) (late : Tally other third) : Tally run third where
  calls := early.calls.trans late.calls
  verdicts := early.verdicts.trans late.verdicts
  outcome := early.outcome.trans late.outcome
  alike unrefused :=
    (early.alike unrefused).trans (late.alike fun failure => early.outcome ▸ unrefused failure)

/-- Whether a run has just been suspended does not matter. -/
theorem awake (tally : Tally run other) : Tally run.awake other where
  calls := tally.calls
  verdicts := tally.verdicts
  outcome := tally.outcome
  alike unrefused := ⟨(tally.alike unrefused).same, (tally.alike unrefused).akin⟩

end Tally

/-- Runs that are alike tally. -/
theorem Alike.tally (alike : Alike run other) : Tally run other where
  calls := congrArg (List.map Turn.call) alike.turns
  verdicts := alike.verdicts
  outcome := alike.outcome
  alike _ := alike

/-! ## (2) Polls with and without pauses -/

section Polling

variable {flight : Flight T}

/-- **A poll beside the run without pauses**, which is done with the callback in one step: either the
callback ends here as well, or it pauses and what is left of it comes to the same end. -/
theorem tally_step_or_suspended (sound : Sound job run) (isFlight : run.flight = some flight)
    (alike : Alike target (run.unpaused.step job.unpaused)) :
    (Tally target (run.step job).unpaused ∧ (run.step job).isWaiting = false) ∨
      ∃ rest, flight.callback.Leaves rest ∧
        (run.step job).flight = some { flight with callback := rest } ∧
        (run.step job).isWaiting = true ∧
        Alike target ((run.step job).unpaused.step job.unpaused) := by
  obtain ⟨stage, status, scene, polled⟩ := sound.exists_polled isFlight
  have state : run.state = .delivering := polled.state
  rw [isWaiting_step_of_polled sound polled]
  cases status with
  | finished result =>
    rw [step_unpaused_of_finished sound polled] at alike
    exact .inl ⟨alike.tally, rfl⟩
  | waiting rest =>
    cases verdict : (job.handler.offer run.received scene.stage.callerQueue).2.2 with
    | some failure =>
      -- The outcome tells of the refusal, and behind it the runs need not be alike.
      obtain ⟨calls, verdicts, twinFailed, failed⟩ := refused_of_waiting sound polled verdict
      refine .inl ⟨⟨?_, ?_, ?_, fun unrefused => ?_⟩, ?_⟩
      · rw [alike.turns, calls]
        rfl
      · rw [alike.verdicts, verdicts]
        rfl
      · rw [alike.outcome, twinFailed]
        exact failed.symm
      · exact absurd (alike.outcome.trans twinFailed) (unrefused failure)
      · rfl
    | none =>
      refine .inr ⟨rest, ⟨_, _, polled.polled⟩, ?_, rfl,
        alike.trans (alike_of_waiting sound polled verdict)⟩
      rw [step_of_inFlight state isFlight]
      exact congrArg Run.flight (pollFlight_of_waiting polled.found polled.polled verdict)

/-- **Sooner or later a callback is done with**, and then the run tallies with the one without
pauses, which has been done with it in one step. -/
theorem exists_tally_of_inFlight (sound : Sound job run) (isFlight : run.flight = some flight)
    (alike : Alike target (run.unpaused.step job.unpaused)) :
    ∃ n, Tally target (run.after job n).unpaused ∧ (run.after job n).isWaiting = false := by
  -- Induction on what is left to do of the callback.
  induction callback : flight.callback using Callback.wellFounded_leaves.induction
    generalizing run flight with
  | _ _ ih =>
    subst callback
    rcases tally_step_or_suspended sound isFlight alike with
      done | ⟨rest, leaves, still, -, later⟩
    · exact ⟨1, done⟩
    · obtain ⟨n, done⟩ := ih rest leaves (sound_step sound) still later rfl
      exact ⟨n + 1, by rw [← after_step]; exact done⟩

end Polling

/-! ## (3) Along each other -/

/-- **A run beside the one without pauses**: both tally, or the run has been suspended in a callback
that the one without pauses is done with in its next step. -/
inductive Beside (job : Job T η) (free run : Run T η) : Prop where
  | tally (tally : Tally free run.unpaused) (awake : run.isWaiting = false)
  | suspended (flight : Flight T) (isFlight : run.flight = some flight)
      (waiting : run.isWaiting = true)
      (alike : Alike (free.step job.unpaused) (run.unpaused.step job.unpaused))

section Along

variable {free : Run T η}

/-- Runs that tally and have not come to their end stay alike in a step without pauses. -/
theorem Tally.alike_step (tally : Tally free run.unpaused) (freeSound : Sound job.unpaused free)
    (unfinished : run.outcome = none) :
    Alike (free.step job.unpaused) (run.unpaused.step job.unpaused) := by
  have none : free.outcome = none := tally.outcome.trans unfinished
  exact (tally.alike fun failure => by simp [none]).step freeSound

/-- **A step of the run** leaves it beside the one without pauses, which takes a step as well unless
the run is suspended or has come to its end. -/
theorem Beside.step (beside : Beside job free run) (sound : Sound job run)
    (freeSound : Sound job.unpaused free) :
    Beside job free (run.step job) ∨ Beside job (free.step job.unpaused) (run.step job) := by
  -- A poll is the same thing for runs that tally and for a run that has been suspended.
  have polls : ∀ flight, run.flight = some flight →
      Alike (free.step job.unpaused) (run.unpaused.step job.unpaused) →
        Beside job free (run.step job) ∨ Beside job (free.step job.unpaused) (run.step job) := by
    intro flight isFlight alike
    rcases tally_step_or_suspended sound isFlight alike with
      ⟨tally, awake⟩ | ⟨rest, -, still, waiting, later⟩
    · exact .inr (.tally tally awake)
    · exact .inl (.suspended _ still waiting later)
  cases beside with
  | suspended flight isFlight _ alike => exact polls flight isFlight alike
  | tally tally awake =>
    cases outcome : run.outcome with
    | some result =>
      rw [step_of_finished sound outcome]
      exact .inl (.tally tally.symm.awake.symm rfl)
    | none =>
      have alike := tally.alike_step freeSound outcome
      cases isFlight : run.flight with
      | some flight => exact polls flight isFlight alike
      | none =>
        rw [step_unpaused_of_idle sound isFlight] at alike
        refine .inr (.tally alike.tally ?_)
        rw [isWaiting_step sound, suspends_of_idle job isFlight]

/-- **Each state of a run** is beside a state of the run without pauses. -/
theorem exists_beside (job : Job T η) (received : η) (memory : T.Memory) (n : Nat) :
    ∃ m, Beside job ((seed job.unpaused received memory).after job.unpaused m)
      ((seed job received memory).after job n) := by
  induction n with
  | zero =>
    refine ⟨0, .tally ?_ rfl⟩
    rw [after, after, seed_unpaused, unpaused_of_idle rfl]
    exact (Alike.refl _).tally
  | succ n ih =>
    obtain ⟨m, beside⟩ := ih
    rcases beside.step (sound_after job received memory n)
      (sound_after job.unpaused received memory m) with still | next
    · exact ⟨m, still⟩
    · exact ⟨m + 1, next⟩

/-- **Each state of the run without pauses** is one that the run comes to. -/
theorem exists_tally (job : Job T η) (received : η) (memory : T.Memory) (m : Nat) :
    ∃ n, Tally ((seed job.unpaused received memory).after job.unpaused m)
      ((seed job received memory).after job n).unpaused ∧
        ((seed job received memory).after job n).isWaiting = false := by
  induction m with
  | zero =>
    refine ⟨0, ?_, rfl⟩
    rw [after, after, seed_unpaused, unpaused_of_idle rfl]
    exact (Alike.refl _).tally
  | succ m ih =>
    obtain ⟨n, tally, awake⟩ := ih
    have sound := sound_after job received memory n
    have freeSound := sound_after job.unpaused received memory m
    cases outcome : ((seed job received memory).after job n).outcome with
    | some result =>
      refine ⟨n, ?_, awake⟩
      rw [after, step_of_finished freeSound (tally.outcome.trans outcome)]
      exact tally.awake
    | none =>
      have alike := tally.alike_step freeSound outcome
      cases isFlight : ((seed job received memory).after job n).flight with
      | some flight =>
        obtain ⟨k, done⟩ := exists_tally_of_inFlight sound isFlight alike
        rw [← after_add] at done
        exact ⟨n + k, done⟩
      | none =>
        rw [step_unpaused_of_idle sound isFlight] at alike
        refine ⟨n + 1, alike.tally, ?_⟩
        rw [after, isWaiting_step sound, suspends_of_idle job isFlight]

end Along

end Relay.Run
