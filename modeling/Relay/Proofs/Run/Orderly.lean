import Relay.Proofs.Run.Changes

/-!
# Turns come one after the other

A callback is started only after the one before has ended well. So every turn of a run has ended
well but, perhaps, the latest one; and the steps that a run counts are the turns that have ended.

* `Run.Orderly` is the invariant, and `Run.orderly_after` says that it holds of every state.
* `Run.Orderly.length_turns_eq_steps` is what it comes to between two callbacks.
-/

namespace Relay

variable {T : Traffic} {η : Type}

/-- A turn that has ended well has ended. -/
theorem Turn.result_eq_of_isClean {turn : Turn T} (clean : turn.isClean = true) :
    turn.result = some (.ok ()) := by
  have ended : turn.result.any (·.isOk) = true := (Bool.and_eq_true_iff.mp clean).2
  rcases result : turn.result with _ | _ | _
  · simp [result] at ended
  · simp [result, Except.isOk, Except.toBool] at ended
  · rfl

namespace Run

variable {job : Job T η} {run next : Run T η}

/-! ## (1) The invariant -/

/-- **The turns of a run come one after the other.** -/
structure Orderly (run : Run T η) : Prop where
  /-- Every turn but the latest one has ended well. -/
  earlier : ∀ turn ∈ (Turn.ofPast run.past).tail, turn.isClean = true
  /-- So has the latest one, unless its callback is in flight or the run has failed. -/
  latest : (∀ error, run.outcome ≠ some (.error error)) → run.flight = none →
    ∀ turn ∈ Turn.ofPast run.past, turn.isClean = true
  /-- The steps of a run are the turns that have ended. -/
  steps : run.steps = (Turn.ofPast run.past).countP (·.result.isSome)

/-- Nothing has happened before a run. -/
theorem orderly_seed (job : Job T η) (received : η) (memory : T.Memory) :
    Orderly (seed job received memory) where
  earlier := by simp [seed]
  latest := by simp [seed]
  steps := rfl

/-! ## (2) Moves -/

/-- A failure is no step. -/
theorem steps_fail (job : Job T η) (run : Run T η) (error : RunError) :
    (run.fail job error).steps = run.steps := by
  obtain ⟨reports, failed⟩ := run.fail_eq job error
  rw [failed]
  rfl

/-- Where nothing happens to the turns, their order stays. -/
theorem Orderly.of_turns_eq (orderly : Orderly run)
    (turns : Turn.ofPast next.past = Turn.ofPast run.past) (steps : next.steps = run.steps)
    (latest : (∀ error, next.outcome ≠ some (.error error)) → next.flight = none →
      (∀ error, run.outcome ≠ some (.error error)) ∧ run.flight = none) : Orderly next where
  earlier := by
    rw [turns]
    exact orderly.earlier
  latest unfailed idle := by
    rw [turns]
    exact orderly.latest (latest unfailed idle).1 (latest unfailed idle).2
  steps := by rw [steps, turns, orderly.steps]

/-- A run that fails between two callbacks leaves the turns as they are. -/
theorem Orderly.fail (orderly : Orderly run) (error : RunError) :
    Orderly (run.fail job error) := by
  refine orderly.of_turns_eq (ofPast_fail job run error) (steps_fail job run error) ?_
  intro unfailed
  exact absurd (outcome_fail job run error) (unfailed error)

/-- **The latest turn goes on or ends**, and the order of the others stays. -/
theorem Orderly.of_latest {turn late : Turn T} {others : List (Turn T)} (orderly : Orderly run)
    (turns : Turn.ofPast run.past = turn :: others) (underWay : turn.result = none)
    (later : Turn.ofPast next.past = late :: others)
    (latest : (∀ error, next.outcome ≠ some (.error error)) → next.flight = none →
      late.isClean = true)
    (steps : next.steps = run.steps + if late.result.isSome then 1 else 0) : Orderly next where
  earlier := by
    have before := orderly.earlier
    rw [turns] at before
    rw [later]
    exact before
  latest unfailed idle other member := by
    have before := orderly.earlier
    rw [turns] at before
    rw [later] at member
    rcases List.mem_cons.mp member with rfl | isEarlier
    · exact latest unfailed idle
    · exact before other isEarlier
  steps := by
    have before := orderly.steps
    rw [turns, List.countP_cons, underWay] at before
    rw [later, List.countP_cons, steps, before]
    simp

/-- **Moves keep the turns in order.** -/
theorem orderly_of_move (sound : Sound job run) (orderly : Orderly run)
    (move : Move job run next) : Orderly next := by
  -- In the last five cases the callback in flight acts, and may come to its end.
  cases move with
  | announce state =>
    obtain ⟨outcome, flight, -⟩ := sound.atRest state (.inl rfl)
    obtain ⟨reports, announced⟩ := run.announce_eq job
    rw [announced, become_eq, reporting_reporting]
    exact orderly.of_turns_eq (Turn.ofPast_reports _ _) rfl fun _ _ => ⟨by simp [outcome], flight⟩
  | succeed state =>
    obtain ⟨outcome, flight, -⟩ := sound.atRest state (.inr rfl)
    obtain ⟨reports, succeeded⟩ := run.succeed_eq job
    rw [succeeded]
    exact orderly.of_turns_eq (Turn.ofPast_reports _ _) rfl fun _ _ => ⟨by simp [outcome], flight⟩
  | starve => exact orderly.fail _
  | exceed => exact orderly.fail _
  | choose slot state =>
    obtain ⟨outcome, flight, -⟩ := sound.atRest state (.inr rfl)
    rw [become_eq]
    exact orderly.of_turns_eq (Turn.ofPast_reports (.ofRecord (.transition run.state .delivering)) _)
      rfl fun _ _ => ⟨by simp [outcome], flight⟩
  | start slot stage processor message rest state outcome flight =>
    -- The turn that is opened is the only one that has not ended.
    have clean := orderly.latest (by simp [outcome]) flight
    have turns : Turn.ofPast (run.opened slot processor message rest).past =
        { call := rest.callFor slot.stage message } :: Turn.ofPast run.past := rfl
    refine ⟨?_, fun _ idle => (by cases idle), ?_⟩
    · rw [turns]
      exact clean
    · rw [turns, List.countP_cons]
      exact orderly.steps
  | refuse flight stage status scene failure polled =>
    obtain ⟨turn, earlier, acts, engaged, acted⟩ := exists_acted sound polled
    have still := engaged_afterPoll job engaged acted
    refine orderly.of_latest engaged.turns engaged.result ((ofPast_fail job _ _).trans still.turns)
      (fun unfailed => absurd (outcome_fail job _ _) (unfailed _)) ?_
    rw [steps_fail, still.result]
    rfl
  | wait flight stage scene rest polled =>
    obtain ⟨turn, earlier, acts, engaged, acted⟩ := exists_acted sound polled
    have still := engaged_afterPoll job engaged acted
    refine orderly.of_latest engaged.turns engaged.result still.turns
      (fun _ idle => by cases idle) ?_
    rw [still.result]
    rfl
  | overreach flight stage scene result polled =>
    obtain ⟨turn, earlier, acts, engaged, acted⟩ := exists_acted sound polled
    refine orderly.of_latest engaged.turns engaged.result
      ((ofPast_fail job _ _).trans (ofPast_afterPoll_settled job engaged acted result))
      (fun unfailed => absurd (outcome_fail job _ _) (unfailed _)) ?_
    exact steps_fail job _ _
  | fail flight stage scene failure polled =>
    obtain ⟨turn, earlier, acts, engaged, acted⟩ := exists_acted sound polled
    refine orderly.of_latest engaged.turns engaged.result
      ((ofPast_fail job _ _).trans (ofPast_afterPoll_settled job engaged acted (.error failure)))
      (fun unfailed => absurd (outcome_fail job _ _) (unfailed _)) ?_
    exact steps_fail job _ _
  | finish flight stage scene polled accepted violation =>
    obtain ⟨turn, earlier, acts, engaged, acted⟩ := exists_acted sound polled
    obtain ⟨reports, finished⟩ := finish_eq sound.toWired engaged acted
    rw [finished]
    refine orderly.of_latest engaged.turns engaged.result
      ((Turn.ofPast_reports reports _).trans (ofPast_afterPoll_settled job engaged acted (.ok ())))
      (fun _ _ => ?_) rfl
    exact Turn.isClean_ended_ok ((isRefused_eq_violation engaged acted).trans violation)
  | stop => exact orderly

/-- **The turns of a run are in order in every state that it comes to.** -/
theorem orderly_after (job : Job T η) (received : η) (memory : T.Memory) (n : Nat) :
    Orderly ((seed job received memory).after job n) := by
  induction n with
  | zero => exact orderly_seed job received memory
  | succ n ih =>
    have sound := sound_after job received memory n
    have awake : Orderly ((seed job received memory).after job n).awake :=
      ⟨ih.earlier, ih.latest, ih.steps⟩
    exact orderly_of_move sound.awake awake (move_step sound)

/-! ## (3) Between callbacks -/

/-- Between callbacks every turn has ended. -/
theorem Orderly.result_ne_none (orderly : Orderly run)
    (unfailed : ∀ error, run.outcome ≠ some (.error error)) (idle : run.flight = none) :
    ∀ turn ∈ run.turns, turn.result ≠ none := by
  intro turn member
  have clean := orderly.latest unfailed idle turn (List.mem_reverse.mp member)
  rw [Turn.result_eq_of_isClean clean]
  exact Option.some_ne_none _

/-- **Between callbacks a run has taken as many steps as it has called processors.** -/
theorem Orderly.length_turns_eq_steps (orderly : Orderly run)
    (unfailed : ∀ error, run.outcome ≠ some (.error error)) (idle : run.flight = none) :
    run.turns.length = run.steps := by
  have all : (Turn.ofPast run.past).countP (·.result.isSome) = (Turn.ofPast run.past).length := by
    refine List.countP_eq_length.mpr fun turn member => ?_
    rw [Turn.result_eq_of_isClean (orderly.latest unfailed idle turn member)]
    rfl
  rw [orderly.steps, all, Run.turns, List.length_reverse]

end Run

end Relay
