import Relay.Proofs.PassThrough.Invisible
import Relay.Proofs.Pauses.Tally

/-!
# Pauses do not matter

Jobs that differ only in where their callbacks pause have runs that tally: whatever one of them does
between two pauses, the other one does as well. Nothing but the number of polls tells them apart, and
that number is the number of pauses and one more.

* `Run.pauses_immaterial` is the result.
-/

namespace Relay

variable {T : Traffic} {η : Type}

namespace Run

/-! ## (1) Two jobs -/

section Same

variable {job other : Job T η} {received : η} {memory : T.Memory} {n : Nat}

/-- **Between suspensions** a run tallies with some state of the other one. -/
theorem exists_tally_of_same (same : job.unpaused = other.unpaused)
    (awake : ((seed job received memory).after job n).isWaiting = false) :
    ∃ m, ((seed other received memory).after other m).isWaiting = false ∧
      Tally ((seed job received memory).after job n).unpaused
        ((seed other received memory).after other m).unpaused := by
  obtain ⟨k, beside⟩ := exists_beside job received memory n
  cases beside with
  | suspended flight isFlight waiting => cases awake.symm.trans waiting
  | tally tally =>
    obtain ⟨m, late, goesOn⟩ := exists_tally other received memory k
    rw [same] at tally
    exact ⟨m, goesOn, tally.symm.trans late⟩

/-- **A run is not suspended for ever.** -/
theorem exists_awake (job : Job T η) (received : η) (memory : T.Memory) (n : Nat) :
    ∃ m, n ≤ m ∧ ((seed job received memory).after job m).isWaiting = false := by
  cases waiting : ((seed job received memory).after job n).isWaiting with
  | false => exact ⟨n, Nat.le_refl n, waiting⟩
  | true =>
    obtain ⟨k, beside⟩ := exists_beside job received memory n
    cases beside with
    | tally tally awake => cases awake.symm.trans waiting
    | suspended flight isFlight _ alike =>
      obtain ⟨m, -, awake⟩ :=
        exists_tally_of_inFlight (sound_after job received memory n) isFlight alike
      rw [← after_add] at awake
      exact ⟨n + m, Nat.le_add_right n m, awake⟩

/-- **A callback is started** in both runs with the same message, on the same stage, with the same
memory, and after the same turns. -/
theorem exists_chosen_of_same {slot : Slot} (same : job.unpaused = other.unpaused)
    (state : ((seed job received memory).after job n).state = .delivering)
    (current : ((seed job received memory).after job n).current = some slot) :
    ∃ m, ((seed other received memory).after other m).state = .delivering ∧
      ((seed other received memory).after other m).current = some slot ∧
      ((seed other received memory).after other m).stages =
        ((seed job received memory).after job n).stages ∧
      ((seed other received memory).after other m).memory =
        ((seed job received memory).after job n).memory ∧
      ((seed other received memory).after other m).turns =
        ((seed job received memory).after job n).turns := by
  have sound := sound_after job received memory n
  have idle : ((seed job received memory).after job n).flight = none :=
    sound.flight_eq_none fun ⟨_, _, noCurrent⟩ => by cases noCurrent.symm.trans current
  obtain ⟨-, -, -, outcome⟩ := sound.exists_chosen state idle
  -- A run is only suspended while a callback is in flight.
  have awake : ((seed job received memory).after job n).isWaiting = false := by
    obtain ⟨k, beside⟩ := exists_beside job received memory n
    cases beside with
    | tally tally awake => exact awake
    | suspended flight isFlight => cases idle.symm.trans isFlight
  obtain ⟨m, -, tally⟩ := exists_tally_of_same same awake
  have unrefused : ∀ failure, ((seed job received memory).after job n).outcome ≠
      some (.error (.handler failure)) := fun failure => by simp [outcome]
  have alike := tally.alike unrefused
  have equal := alike.same.symm
  have stages := congrArg Run.stages equal
  have memories := congrArg Run.memory equal
  exact ⟨m, (congrArg Run.state equal).trans state, (congrArg Run.current equal).trans current,
    stages, memories, alike.turns.symm⟩

/-- **Both runs come to the same end**, if one of them does. -/
theorem exists_outcome_of_same (same : job.unpaused = other.unpaused)
    {result : Except RunError RunSummary}
    (ends : ∃ n, ((seed job received memory).after job n).outcome = some result) :
    ∃ n, ((seed other received memory).after other n).outcome = some result := by
  obtain ⟨n, outcome⟩ := ends
  obtain ⟨k, later, awake⟩ := exists_awake job received memory n
  obtain ⟨m, -, tally⟩ := exists_tally_of_same same awake
  have same : _ = ((seed other received memory).after other m).outcome := tally.outcome
  exact ⟨m, same.symm.trans (outcome_after_of_finished later outcome)⟩

end Same

/-! ## (2) The result -/

/-- **Pauses do not matter.** Two jobs that are the same without their pauses have the same run,
apart from its suspensions: in each state in which the one has not just been suspended, it has called
the same processors in the same order with the same messages as the other one in some such state, the
handler has been offered the same items and has said the same about them, and the outcome is the
same. Each callback is started with the same message on the same stages; and both runs come to the
same end, or both to none. A run that is polled to its end is polled once for each poll of a callback
that pauses with no item refused, and once more. -/
theorem pauses_immaterial {job other : Job T η} (same : job.unpaused = other.unpaused)
    (received : η) (memory : T.Memory) :
    let first := (seed job received memory).after job
    let second := (seed other received memory).after other
    (∀ n, (first n).isWaiting = false →
      ∃ m, (second m).isWaiting = false ∧ Tally (first n).unpaused (second m).unpaused) ∧
    (∀ n, ∃ m, n ≤ m ∧ (first m).isWaiting = false) ∧
    (∀ n slot, (first n).state = .delivering → (first n).current = some slot →
      ∃ m, (second m).state = .delivering ∧ (second m).current = some slot ∧
        (second m).stages = (first n).stages ∧ (second m).memory = (first n).memory ∧
        (second m).turns = (first n).turns) ∧
    (∀ result, (∃ n, (first n).outcome = some result) ↔ ∃ m, (second m).outcome = some result) ∧
    ∀ n fuel polls, (first n).isFinished = true → n ≤ fuel → n ≤ polls →
      (seed job received memory).pollToEnd job fuel polls =
        (first n, (seed job received memory).suspensions job n + 1) := by
  intro first second
  refine ⟨fun n awake => exists_tally_of_same same awake, exists_awake job received memory,
    fun n slot state current => exists_chosen_of_same same state current,
    fun result => ⟨exists_outcome_of_same same, exists_outcome_of_same same.symm⟩, ?_⟩
  intro n fuel polls ends enough often
  exact pollToEnd_eq (sound_seed job received memory) rfl ends enough often

end Run

/-! ## (3) Jobs that pause -/

/-- **The processor that pauses** before it does anything. -/
def Processor.hesitant (processor : Processor T) : Processor T :=
  { processor with
    onRequest := fun request => .pause (processor.onRequest request)
    onResponse := fun reply => .pause (processor.onResponse reply) }

/-- **The job whose processors all pause** before they do anything. -/
def Job.hesitant (job : Job T η) : Job T η :=
  { job with
    pipeline :=
      { job.pipeline with
        processors := job.pipeline.processors.map Processor.hesitant
        processors_ne_nil := by simpa using job.pipeline.processors_ne_nil } }

/-- Without its pauses it is the same as before. -/
theorem Job.unpaused_hesitant (job : Job T η) : job.hesitant.unpaused = job.unpaused := by
  have processors : (job.pipeline.processors.map Processor.hesitant).map Processor.unpaused =
      job.pipeline.processors.map Processor.unpaused := by
    rw [List.map_map]
    rfl
  simp only [Job.unpaused, Pipeline.unpaused, Job.hesitant, processors]

namespace Run

/-- Pauses before each callback make no difference to the exchange of two items. -/
theorem exchange_hesitant : exchange.hesitant.unpaused = exchange.unpaused ∧
    ∀ result, (∃ n, ((seed exchange.hesitant [] ()).after exchange.hesitant n).outcome =
      some result) ↔ ∃ m, ((seed exchange [] ()).after exchange m).outcome = some result :=
  ⟨exchange.unpaused_hesitant, (pauses_immaterial exchange.unpaused_hesitant [] ()).2.2.2.1⟩

example : ((seed exchange.hesitant [] ()).pollToEnd exchange.hesitant 40 40).2 = 6 := by rfl

end Run

end Relay
