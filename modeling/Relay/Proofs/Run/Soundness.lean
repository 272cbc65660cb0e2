import Relay.Proofs.Run.Ending

/-!
# Runs stay sound

Every move keeps a run sound, and so every state that a run comes to is sound.

* `Run.sound_step` and `Run.sound_after` are the step and the run lemma.
-/

namespace Relay

variable {T : Traffic} {η : Type}

namespace Run

variable {job : Job T η} {run : Run T η}

/-! ## (1) Steps -/

/-- What processors remember plays no part in soundness, nor does it whether a pause is told of. -/
theorem Sound.beside (sound : Sound job run) (memory : T.Memory) (isWaiting : Bool) :
    Sound job { run with memory, isWaiting } where
  blank := sound.blank
  caller := sound.caller
  ready := sound.ready
  idle := sound.idle
  phase := by
    cases sound.phase with
    | atRest state outcome flight current => exact .atRest state outcome flight current
    | chosen slot state outcome flight current ready =>
      exact .chosen slot state outcome flight current ready
    | inFlight flight state outcome isFlight current =>
      exact .inFlight flight state outcome isFlight current
    | succeeded summary state outcome flight => exact .succeeded summary state outcome flight
    | failed error state outcome flight => exact .failed error state outcome flight
  engaged flight isFlight := by
    obtain ⟨stage, turn, earlier, engaged⟩ := sound.engaged flight isFlight
    exact ⟨stage, turn, earlier, engaged.found, engaged.processor, engaged.turns, engaged.place,
      engaged.kind, engaged.result, engaged.outbox, engaged.violation,
      engaged.request?_of_isLast, engaged.isLast_of_isRefused⟩

/-- To be told of a pause or not makes no difference. -/
theorem Sound.awake (sound : Sound job run) : Sound job run.awake :=
  sound.beside run.memory false

/-- A run that has been at rest and has only been reported about, or has chosen, is sound. -/
theorem Sound.atRest (sound : Sound job run) {state : RunState} (resting : run.state = state)
    (isRest : state = .seeded ∨ state = .running) :
    run.outcome = none ∧ run.flight = none ∧ run.current = none := by
  cases sound.phase with
  | atRest _ outcome flight current => exact ⟨outcome, flight, current⟩
  | chosen _ delivering => rcases isRest with rfl | rfl <;> simp_all
  | inFlight _ delivering => rcases isRest with rfl | rfl <;> simp_all
  | succeeded _ terminated => rcases isRest with rfl | rfl <;> simp_all
  | failed _ failed => rcases isRest with rfl | rfl <;> simp_all

/-- A run that is about to start a callback has chosen a queue in which a message waits. -/
theorem Sound.exists_chosen (sound : Sound job run) (state : run.state = .delivering)
    (flight : run.flight = none) :
    ∃ slot, run.current = some slot ∧ slot ∈ run.ready ∧ run.outcome = none := by
  cases sound.phase with
  | atRest resting => rcases resting with seeded | running <;> simp_all
  | chosen slot _ outcome _ current ready => exact ⟨slot, current, ready, outcome⟩
  | inFlight other _ _ isFlight => cases flight.symm.trans isFlight
  | succeeded _ terminated => cases state.symm.trans terminated
  | failed _ failed => cases state.symm.trans failed

/-- A run with a callback in flight has no outcome yet, and no chosen message any longer. -/
theorem Sound.inFlight (sound : Sound job run) {flight : Flight T}
    (isFlight : run.flight = some flight) :
    run.state = .delivering ∧ run.outcome = none ∧ run.current = none := by
  cases sound.phase with
  | atRest _ _ idle => cases idle.symm.trans isFlight
  | chosen _ _ _ idle => cases idle.symm.trans isFlight
  | inFlight _ state outcome _ current => exact ⟨state, outcome, current⟩
  | succeeded _ _ _ idle => cases idle.symm.trans isFlight
  | failed _ _ _ idle => cases idle.symm.trans isFlight

/-- **A callback in flight can be polled.** -/
theorem Sound.exists_polled (sound : Sound job run) {flight : Flight T}
    (isFlight : run.flight = some flight) :
    ∃ stage status scene, run.awake.Polled flight stage status scene := by
  obtain ⟨state, outcome, current⟩ := sound.inFlight isFlight
  obtain ⟨stage, turn, earlier, engaged⟩ := sound.engaged flight isFlight
  rcases polled : flight.callback.poll ⟨stage, run.memory, run.past⟩ with ⟨status, scene⟩
  exact ⟨stage, status, scene, state, outcome, isFlight, current, engaged.found, polled⟩

/-- So a run of which something else is known has no callback in flight. -/
theorem Sound.flight_eq_none (sound : Sound job run)
    (otherwise : ¬ (run.state = .delivering ∧ run.outcome = none ∧ run.current = none)) :
    run.flight = none := by
  cases isFlight : run.flight with
  | none => rfl
  | some flight => exact absurd (sound.inFlight isFlight) otherwise

/-- A run that has come to its end stays as it is. -/
theorem step_of_finished (sound : Sound job run) {result : Except RunError RunSummary}
    (finished : run.outcome = some result) : run.step job = run.awake := by
  refine step_of_isTerminal ?_
  cases sound.phase with
  | atRest _ unfinished => cases unfinished.symm.trans finished
  | chosen _ _ unfinished => cases unfinished.symm.trans finished
  | inFlight _ _ unfinished => cases unfinished.symm.trans finished
  | succeeded _ state => rw [state]; rfl
  | failed _ state => rw [state]; rfl

/-- **Moves keep runs sound.** -/
theorem sound_of_move {next : Run T η} (sound : Sound job run) (move : Move job run next) :
    Sound job next := by
  cases move with
  | announce state =>
    obtain ⟨outcome, flight, current⟩ := sound.atRest state (.inl rfl)
    obtain ⟨reports, announced⟩ := run.announce_eq job
    rw [announced, become_eq]
    exact
      { blank := sound.blank
        caller := sound.caller
        ready := sound.ready
        idle := sound.idle
        phase := .atRest (.inr rfl) outcome flight current
        engaged := fun _ isFlight => by cases flight.symm.trans isFlight }
  | succeed state eop =>
    obtain ⟨outcome, flight, current⟩ := sound.atRest state (.inr rfl)
    obtain ⟨reports, succeeded⟩ := run.succeed_eq job
    -- Of a run that has ended, nothing is asked about what is left over.
    rw [succeeded]
    exact
      { blank := sound.blank
        caller := sound.caller
        ready := sound.ready
        idle := fun unfinished => by cases unfinished
        phase := .succeeded _ rfl rfl flight
        engaged := fun _ isFlight => by cases flight.symm.trans isFlight }
  | starve => exact sound.toWired.fail _
  | exceed => exact sound.toWired.fail _
  | choose slot state eop next free =>
    obtain ⟨outcome, flight, current⟩ := sound.atRest state (.inr rfl)
    rw [become_eq]
    exact
      { blank := sound.blank
        caller := sound.caller
        ready := sound.ready
        idle := sound.idle
        phase := .chosen slot rfl outcome flight rfl (List.mem_of_mem_head? next)
        engaged := fun _ isFlight => by cases flight.symm.trans isFlight }
  | start slot stage processor message rest state outcome flight current found hasProcessor
      popped =>
    exact sound_opened sound state outcome flight found hasProcessor popped
  | refuse flight stage status scene failure polled refused =>
    obtain ⟨turn, earlier, acts, engaged, acted⟩ := exists_acted sound polled
    exact (wired_afterPoll sound.toWired polled.found acted).fail _
  | wait flight stage scene rest polled accepted => exact sound_wait sound polled
  | overreach flight stage scene result polled accepted violation =>
    obtain ⟨turn, earlier, acts, engaged, acted⟩ := exists_acted sound polled
    have wired := wired_afterPoll sound.toWired polled.found acted
    have cleared := wired.set scene.stage.clearCaller.clearViolation
      (getElem?_afterPoll job scene polled.found) rfl rfl fun kind => by cases kind <;> rfl
    refine Wired.fail ?_ _
    -- To forget the attempt touches neither make nor queues of the stage.
    rw [modifyStage_eq _ (getElem?_settled job scene result polled.found)]
    exact ⟨cleared.blank, cleared.caller, cleared.ready⟩
  | fail flight stage scene failure polled accepted violation =>
    obtain ⟨turn, earlier, acts, engaged, acted⟩ := exists_acted sound polled
    have wired := wired_afterPoll sound.toWired polled.found acted
    refine Wired.fail ?_ _
    exact ⟨wired.blank, wired.caller, wired.ready⟩
  | finish flight stage scene polled accepted violation =>
    exact sound_finish sound polled violation
  | stop => exact sound

/-- **A step keeps a run sound.** -/
theorem sound_step (sound : Sound job run) : Sound job (run.step job) :=
  sound_of_move sound.awake (move_step sound)

/-- However many steps are taken, a run stays sound. -/
theorem Sound.after (sound : Sound job run) (n : Nat) : Sound job (run.after job n) := by
  induction n with
  | zero => exact sound
  | succ n ih => exact sound_step ih

/-- **A run that has come to its end stays there.** -/
theorem Sound.awake_after (sound : Sound job run) {result : Except RunError RunSummary}
    (finished : run.outcome = some result) (n : Nat) :
    (run.after job n).awake = run.awake := by
  induction n with
  | zero => rfl
  | succ n ih =>
    have still : (run.after job n).outcome = some result :=
      (congrArg Run.outcome ih).trans finished
    rw [Run.after, step_of_finished (sound.after n) still]
    exact ih

/-- **Every state that a run comes to is sound.** -/
theorem sound_after (job : Job T η) (received : η) (memory : T.Memory) (n : Nat) :
    Sound job ((seed job received memory).after job n) :=
  (sound_seed job received memory).after n

end Run

end Relay
