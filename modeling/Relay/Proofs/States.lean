import Relay.Proofs.Run.Calls
import Relay.Proofs.Run.Course

/-!
# The states of a run

A run tells of every change of its state. It makes at most one in a step, from the state that it is
in to one that may follow it. What it tells is therefore a path: it is seeded, runs, and delivers
one callback after the other, running in between, until it is terminated or failed.

* `Run.lifecycle` reads the states off the journal.
* `Run.changes_step` says what a step adds to them.
* `Run.states_are_legal` is the result.
-/

namespace Relay

variable {T : Traffic} {η : Type}

/-! ## (1) What a run tells -/

/-- **The states of a run up to a choice**, after a number of rounds. -/
def RunState.path (rounds : Nat) : List RunState :=
  .seeded :: .running :: (List.replicate rounds [.delivering, .running]).flatten

namespace Run

variable {job : Job T η} {run : Run T η} {milestones : List Milestone}

/-- **The changes of state** that a run has told of, in order, each with the state left and the
state entered. -/
def changes (job : Job T η) (run : Run T η) : List (RunState × RunState) :=
  (run.milestones job).filterMap Milestone.change?

/-- **The states of a run**, in order: that of its beginning and those that it has entered. -/
def lifecycle (job : Job T η) (run : Run T η) : List RunState :=
  .seeded :: (run.changes job).map Prod.snd

/-- Events change no state. -/
theorem changes_told (job : Job T η) (event : Event) :
    (job.told event).filterMap Milestone.change? = [] := by
  unfold Job.told
  split <;> rfl

/-- The states up to a choice. -/
theorem lifecycle_beginning (job : Job T η) (rounds : Nat) :
    .seeded :: ((job.beginning rounds).filterMap Milestone.change?).map Prod.snd =
      RunState.path rounds := by
  have flat : ((List.replicate rounds [Milestone.change .running .delivering,
      .change .delivering .running]).flatten.filterMap Milestone.change?).map Prod.snd =
      (List.replicate rounds [RunState.delivering, .running]).flatten := by
    rw [List.filterMap_flatten, List.map_flatten, List.map_replicate, List.map_replicate]
    rfl
  rw [Job.beginning, List.filterMap_append, changes_told, List.nil_append, List.filterMap_cons,
    Milestone.change?]
  simp only [List.map_cons, flat]
  rfl

/-! ## (2) Steps -/

/-- **A step makes at most one change of state**, and that a legal one. It chooses a message exactly
when it enters the state in which callbacks are delivered. -/
theorem changes_step (sound : Sound job run) (chronicled : Chronicled job run milestones) :
    ((run.step job).changes job = run.changes job ∧ (run.step job).state = run.state ∧
        (run.step job).visits = run.visits) ∨
      (run.step job).changes job = run.changes job ++ [(run.state, (run.step job).state)] ∧
        run.state.canBecome (run.step job).state = true ∧
        (run.step job).visits =
          run.visits + if (run.step job).state = .delivering then 1 else 0 := by
  obtain ⟨more, stride, later⟩ := stride_step sound chronicled
  have told : (run.step job).changes job =
      run.changes job ++ more.filterMap Milestone.change? := by
    rw [changes, changes, later.milestones_eq, chronicled.milestones_eq, List.filterMap_append]
  cases stride with
  | still state _ _ _ visits =>
    left
    exact ⟨told.trans (List.append_nil _), state, visits⟩
  | announced before state _ visits =>
    right
    rw [List.filterMap_append, changes_told] at told
    rw [told, before, state, visits]
    exact ⟨rfl, rfl, rfl⟩
  | chosen before state _ visits =>
    right
    rw [told, before, state, visits]
    exact ⟨rfl, rfl, rfl⟩
  | returned before state _ visits =>
    right
    rw [told, before, state, visits]
    exact ⟨rfl, rfl, rfl⟩
  | succeeded summary before state _ _ visits =>
    right
    rw [List.filterMap_cons, changes_told] at told
    rw [told, before, state, visits]
    exact ⟨rfl, rfl, rfl⟩
  | failed error before state _ _ visits =>
    right
    rw [List.filterMap_cons, changes_told] at told
    rw [told, state, visits]
    rcases before with running | delivering
    · rw [running]
      exact ⟨rfl, rfl, rfl⟩
    · rw [delivering]
      exact ⟨rfl, rfl, rfl⟩

/-- **All changes of state are legal.** -/
theorem canBecome_of_mem_changes (job : Job T η) (received : η) (memory : T.Memory) (n : Nat) :
    ∀ change ∈ ((seed job received memory).after job n).changes job,
      change.1.canBecome change.2 = true := by
  induction n with
  | zero =>
    intro change member
    cases member
  | succ n ih =>
    intro change member
    obtain ⟨milestones, -, chronicled⟩ := course_after job received memory n
    rcases changes_step (sound_after job received memory n) chronicled with
      ⟨same, -⟩ | ⟨more, legal, -⟩
    · rw [after, same] at member
      exact ih change member
    · rw [after, more, List.mem_append] at member
      rcases member with earlier | latest
      · exact ih change earlier
      · rw [List.mem_singleton.mp latest]
        exact legal

/-- **The latest state that a run has entered** is the one that it is in. -/
theorem getLast?_lifecycle (job : Job T η) (received : η) (memory : T.Memory) (n : Nat) :
    (((seed job received memory).after job n).lifecycle job).getLast? =
      some ((seed job received memory).after job n).state := by
  induction n with
  | zero => rfl
  | succ n ih =>
    obtain ⟨milestones, -, chronicled⟩ := course_after job received memory n
    rw [lifecycle] at ih ⊢
    rcases changes_step (sound_after job received memory n) chronicled with
      ⟨same, state, -⟩ | ⟨more, -⟩
    · rw [after, same, state, ih]
    · rw [after, more, List.map_append, ← List.cons_append]
      exact List.getLast?_concat

/-- **A run enters the state in which callbacks are delivered** once for each message that it
chooses. -/
theorem count_delivering (job : Job T η) (received : η) (memory : T.Memory) (n : Nat) :
    (((seed job received memory).after job n).lifecycle job).count .delivering =
      ((seed job received memory).after job n).visits := by
  induction n with
  | zero => rfl
  | succ n ih =>
    obtain ⟨milestones, -, chronicled⟩ := course_after job received memory n
    rw [lifecycle] at ih ⊢
    rcases changes_step (sound_after job received memory n) chronicled with
      ⟨same, -, visits⟩ | ⟨more, -, visits⟩
    · rw [after, same, visits, ih]
    · rw [after, more, visits, ← ih, List.map_append, ← List.cons_append, List.count_append]
      simp [List.count_singleton]

/-- **A run that has just entered that state** has chosen a message, and the next step starts one
callback, for it. -/
theorem exists_started (sound : Sound job run) (before : run.state ≠ .delivering)
    (entered : (run.step job).state = .delivering) :
    ∃ slot turn, (run.step job).current = some slot ∧ (run.step job).flight = none ∧
      ((run.step job).step job).turns = (run.step job).turns ++ [turn] ∧
      turn.call.slot = slot := by
  have idle : run.flight = none := sound.flight_eq_none fun inFlight => before inFlight.1
  have later := sound_step sound
  cases isFlight : (run.step job).flight with
  | some flight => exact absurd (chosen_of_started sound idle isFlight).1 before
  | none =>
    obtain ⟨slot, stage, processor, message, rest, current, -, popped, started⟩ :=
      exists_opened later entered isFlight
    refine ⟨slot, { call := rest.callFor slot.stage message }, current, rfl, ?_, ?_⟩
    · rw [started]
      exact turns_eq_concat rfl
    · show (⟨slot.stage, message.kind⟩ : Slot) = slot
      rw [Stage.kind_of_pop? popped]

/-! ## (3) Ends -/

/-- **The states of a run that has succeeded.** -/
theorem lifecycle_of_success (sound : Sound job run) (course : Course job run milestones)
    (chronicled : Chronicled job run milestones) {summary : RunSummary}
    (succeeded : run.outcome = some (.ok summary)) :
    run.lifecycle job = RunState.path run.rounds ++ [.terminated] := by
  have state := sound.phase.terminated_iff.mpr ⟨summary, succeeded⟩
  rw [lifecycle, changes, chronicled.milestones_eq]
  cases course with
  | seeded other | running other | delivering other | failedChoosing _ other
  | failedDelivering _ other => cases state.symm.trans other
  | terminated =>
    rw [List.filterMap_append, List.filterMap_cons, Milestone.change?, changes_told,
      List.map_append, ← List.cons_append, lifecycle_beginning]
    rfl

/-- **The states of a run that has failed**: it has failed before a further message was chosen, or
with a callback. -/
theorem lifecycle_of_failure (sound : Sound job run) (course : Course job run milestones)
    (chronicled : Chronicled job run milestones) {error : RunError}
    (failed : run.outcome = some (.error error)) :
    run.lifecycle job = RunState.path run.rounds ++ [.failed] ∨
      run.lifecycle job = RunState.path run.rounds ++ [.delivering, .failed] := by
  have state := sound.phase.failed_iff.mpr ⟨error, failed⟩
  rw [lifecycle, changes, chronicled.milestones_eq]
  cases course with
  | seeded other | running other | delivering other | terminated _ other =>
    cases state.symm.trans other
  | failedChoosing =>
    left
    rw [List.filterMap_append, List.filterMap_cons, Milestone.change?, changes_told,
      List.map_append, ← List.cons_append, lifecycle_beginning]
    rfl
  | failedDelivering =>
    right
    rw [List.filterMap_append, List.filterMap_cons, Milestone.change?, List.filterMap_cons,
      Milestone.change?, changes_told, List.map_append, ← List.cons_append, lifecycle_beginning]
    rfl

/-! ## (4) The result -/

/-- **A run never makes an illegal change of state.** Every change that it tells of is legal; a step
makes at most one, from the state in which it finds the run to the one in which it leaves it, and
the latest state told is that one. When a run comes to deliver, a message is chosen, and the next
step starts one callback, for this message; so it comes to deliver once for each callback. The
states of a run that has come to its end are the path of its rounds, the callbacks that have ended
well, and then its end: success, or failure out of the choice or out of a callback. No change leaves
the end, and it is success exactly if the run returns a summary. -/
theorem states_are_legal (job : Job T η) (received : η) (memory : T.Memory) :
    let run := (seed job received memory).after job
    (∀ n, ∀ change ∈ (run n).changes job, change.1.canBecome change.2 = true) ∧
    (∀ n, (run (n + 1)).changes job = (run n).changes job ∧ (run (n + 1)).state = (run n).state ∨
      (run (n + 1)).changes job =
          (run n).changes job ++ [((run n).state, (run (n + 1)).state)] ∧
        (run n).state.canBecome (run (n + 1)).state = true) ∧
    (∀ n, ((run n).lifecycle job).getLast? = some (run n).state) ∧
    (∀ n, (run n).state ≠ .delivering → (run (n + 1)).state = .delivering →
      ∃ slot turn, (run (n + 1)).current = some slot ∧ (run (n + 1)).flight = none ∧
        (run (n + 2)).turns = (run (n + 1)).turns ++ [turn] ∧ turn.call.slot = slot) ∧
    (∀ n, ((run n).lifecycle job).count .delivering = (run n).turns.length +
      if (run n).state = .delivering ∧ (run n).flight = none then 1 else 0) ∧
    (∀ n summary, (run n).outcome = some (.ok summary) →
      (run n).lifecycle job =
        RunState.path ((run n).turns.countP Turn.isClean) ++ [.terminated]) ∧
    (∀ n error, (run n).outcome = some (.error error) →
      (run n).lifecycle job = RunState.path ((run n).turns.countP Turn.isClean) ++ [.failed] ∨
      (run n).lifecycle job =
        RunState.path ((run n).turns.countP Turn.isClean) ++ [.delivering, .failed]) ∧
    (∀ n m, n ≤ m → (run n).state.isTerminal = true →
      (run m).state = (run n).state ∧ (run m).changes job = (run n).changes job) ∧
    (∀ n, ((run n).state = .terminated ↔ ∃ summary, (run n).outcome = some (.ok summary)) ∧
      ((run n).state = .failed ↔ ∃ error, (run n).outcome = some (.error error))) := by
  intro run
  have sound (n : Nat) : Sound job (run n) := sound_after job received memory n
  refine ⟨canBecome_of_mem_changes job received memory, ?_,
    getLast?_lifecycle job received memory, ?_,
    count_delivering job received memory, ?_, ?_, ?_, ?_⟩
  · intro n
    obtain ⟨milestones, -, chronicled⟩ := course_after job received memory n
    rcases changes_step (sound n) chronicled with ⟨same, state, -⟩ | ⟨more, legal, -⟩
    · exact .inl ⟨same, state⟩
    · exact .inr ⟨more, legal⟩
  · intro n before entered
    exact exists_started (sound n) before entered
  · intro n summary succeeded
    obtain ⟨milestones, course, chronicled⟩ := course_after job received memory n
    exact lifecycle_of_success (sound n) course chronicled succeeded
  · intro n error failed
    obtain ⟨milestones, course, chronicled⟩ := course_after job received memory n
    exact lifecycle_of_failure (sound n) course chronicled failed
  · intro n m le isTerminal
    -- A step makes legal changes only, and none is legal from a terminal state.
    induction le with
    | refl => exact ⟨rfl, rfl⟩
    | @step m _ ih =>
      obtain ⟨sameState, sameChanges⟩ := ih
      obtain ⟨milestones, -, chronicled⟩ := course_after job received memory m
      rcases changes_step (sound m) chronicled with ⟨same, state, -⟩ | ⟨-, legal, -⟩
      · exact ⟨state.trans sameState, same.trans sameChanges⟩
      · rw [sameState, RunState.isTerminal_iff.mp isTerminal] at legal
        cases legal
  · intro n
    exact ⟨(sound n).phase.terminated_iff, (sound n).phase.failed_iff⟩

end Run

end Relay
