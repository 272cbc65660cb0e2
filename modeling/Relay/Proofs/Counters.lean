import Relay.Proofs.Cause
import Relay.Proofs.Run.Course

/-!
# The counters of a run

A message is counted when its callback is started, a step when the callback has ended, an item when
the caller's handler has accepted it. So messages and steps differ only while a callback is in
flight, and for good if the handler has refused an item of it, because the callback is then dropped.

* `Run.Counted` is the invariant, and `Run.counted_after` says that it holds of every state.
* `Run.counters_tell_the_truth` is the result.
-/

namespace Relay

variable {T : Traffic} {η : Type}

/-! ## (1) What is counted -/

/-- **The callbacks with a message of a kind.** -/
def Turn.handled (kind : MessageKind) (turns : List (Turn T)) : Nat :=
  turns.countP (·.call.message.kind = kind)

namespace Turn

variable {turns others : List (Turn T)}

/-- It is the calls that are counted. -/
theorem handled_congr (kind : MessageKind) (calls : turns.map (·.call) = others.map (·.call)) :
    handled kind turns = handled kind others := by
  have counts := congrArg (List.countP fun call : Call T => call.message.kind = kind) calls
  rwa [List.countP_map, List.countP_map] at counts

/-- One more callback. -/
theorem handled_concat (kind : MessageKind) (turns : List (Turn T)) (turn : Turn T) :
    handled kind (turns ++ [turn]) =
      handled kind turns + if turn.call.message.kind = kind then 1 else 0 := by
  simp [handled, List.countP_append, List.countP_cons]

/-- Each callback has a message of one of the two kinds. -/
theorem handled_add_handled (turns : List (Turn T)) :
    handled .request turns + handled .response turns = turns.length := by
  rw [List.length_eq_countP_add_countP fun turn : Turn T => turn.call.message.kind = .request,
    handled, handled]
  congr 2
  funext turn
  cases turn.call.message.kind <;> rfl

end Turn

namespace Run

variable {job : Job T η} {run next : Run T η}

/-- **The callbacks that have not come to their end**: the one in flight, or the one that was
dropped when the handler refused an item of it. -/
def unended (run : Run T η) : Nat :=
  match run.flight, run.outcome with
  | some _, _ => 1
  | none, some (.error (.handler _)) => 1
  | none, _ => 0

/-- A callback in flight has not come to its end. -/
theorem unended_of_flight {flight : Flight T} (isFlight : run.flight = some flight) :
    run.unended = 1 := by
  simp only [unended, isFlight]

/-- Nor has one that was dropped. -/
theorem unended_of_refused {failure : Failure} (idle : run.flight = none)
    (refused : run.outcome = some (.error (.handler failure))) : run.unended = 1 := by
  simp only [unended, idle, refused]

/-- Otherwise all callbacks have. -/
theorem unended_of_idle (idle : run.flight = none)
    (accepted : ∀ failure, run.outcome ≠ some (.error (.handler failure))) : run.unended = 0 := by
  unfold unended
  rw [idle]
  split
  · simp_all
  · exact absurd ‹_› (accepted _)
  · rfl

/-! ## (2) The invariant -/

/-- **A run whose counters are right.** -/
structure Counted (run : Run T η) : Prop where
  requests : run.requestsProcessed = Turn.handled .request run.turns
  responses : run.responsesProcessed = Turn.handled .response run.turns
  steps : run.turns.length = run.steps + run.unended

/-- Without a call only the step and the callbacks that have not come to their end can change. -/
theorem Counted.of_calls_eq (counted : Counted run)
    (calls : next.turns.map (·.call) = run.turns.map (·.call))
    (requests : next.requestsProcessed = run.requestsProcessed)
    (responses : next.responsesProcessed = run.responsesProcessed)
    (steps : next.steps + next.unended = run.steps + run.unended) : Counted next where
  requests := by rw [requests, Turn.handled_congr _ calls, counted.requests]
  responses := by rw [responses, Turn.handled_congr _ calls, counted.responses]
  steps := by
    have lengths := congrArg List.length calls
    rw [List.length_map, List.length_map] at lengths
    rw [lengths, steps, counted.steps]

/-- The calls where nothing happens to the turns. -/
theorem calls_of_turns_eq (turns : Turn.ofPast next.past = Turn.ofPast run.past) :
    next.turns.map (·.call) = run.turns.map (·.call) := by
  rw [Run.turns, Run.turns, turns]

/-- The calls where the latest turn goes on. -/
theorem calls_of_latest {turn late : Turn T} {earlier : List (Turn T)}
    (turns : Turn.ofPast run.past = turn :: earlier)
    (later : Turn.ofPast next.past = late :: earlier) (call : late.call = turn.call) :
    next.turns.map (·.call) = run.turns.map (·.call) := by
  rw [turns_eq_concat turns, turns_eq_concat later, List.map_append, List.map_append]
  simp [call]

/-- A failure counts no message. -/
theorem processed_fail (job : Job T η) (run : Run T η) (error : RunError) :
    (run.fail job error).requestsProcessed = run.requestsProcessed ∧
      (run.fail job error).responsesProcessed = run.responsesProcessed := by
  obtain ⟨reports, failed⟩ := run.fail_eq job error
  rw [failed]
  exact ⟨rfl, rfl⟩

/-- When a run fails otherwise than by a refusal, no callback has been dropped. -/
theorem unended_fail (job : Job T η) (run : Run T η) {error : RunError}
    (other : ∀ failure, error ≠ .handler failure) : (run.fail job error).unended = 0 := by
  apply unended_of_idle (flight_fail job run error)
  intro failure refused
  rw [outcome_fail] at refused
  exact other failure (Except.error.inj (Option.some.inj refused))

/-- **A failure between callbacks** changes no counter. -/
theorem Counted.fail (counted : Counted run) (idle : run.flight = none)
    (unfinished : run.outcome = none) {error : RunError}
    (other : ∀ failure, error ≠ .handler failure) : Counted (run.fail job error) := by
  obtain ⟨requests, responses⟩ := processed_fail job run error
  refine counted.of_calls_eq (calls_of_turns_eq (ofPast_fail job run error)) requests responses ?_
  rw [steps_fail, unended_fail job run other, unended_of_idle idle (by simp [unfinished])]

/-- **A callback that ends** is a step. -/
theorem Counted.ended (counted : Counted run) {flight : Flight T}
    (isFlight : run.flight = some flight)
    (calls : next.turns.map (·.call) = run.turns.map (·.call))
    (requests : next.requestsProcessed = run.requestsProcessed)
    (responses : next.responsesProcessed = run.responsesProcessed)
    (steps : next.steps = run.steps + 1) (ended : next.unended = 0) : Counted next := by
  refine counted.of_calls_eq calls requests responses ?_
  rw [unended_of_flight isFlight, steps, ended]

/-- **Moves keep the counters right.** -/
theorem counted_of_move (sound : Sound job run) (counted : Counted run)
    (move : Move job run next) : Counted next := by
  cases move with
  | announce state =>
    obtain ⟨reports, announced⟩ := run.announce_eq job
    rw [announced, become_eq, reporting_reporting]
    exact counted.of_calls_eq (calls_of_turns_eq (Turn.ofPast_reports _ run.past)) rfl rfl rfl
  | succeed state =>
    obtain ⟨unfinished, idle, -⟩ := sound.atRest state (.inr rfl)
    obtain ⟨reports, succeeded⟩ := run.succeed_eq job
    have before : run.unended = 0 := unended_of_idle idle (by simp [unfinished])
    have behind : (run.succeed job).unended = 0 := by
      rw [succeeded]
      exact unended_of_idle idle fun _ => by simp
    refine counted.of_calls_eq (calls_of_turns_eq ?_) ?_ ?_ ?_
    · rw [succeeded]
      exact Turn.ofPast_reports reports run.past
    · rw [succeeded]
      rfl
    · rw [succeeded]
      rfl
    · rw [before, behind, succeeded]
      rfl
  | starve state =>
    obtain ⟨unfinished, idle, -⟩ := sound.atRest state (.inr rfl)
    exact counted.fail idle unfinished fun _ => RunError.noConfusion
  | exceed slot limit state =>
    obtain ⟨unfinished, idle, -⟩ := sound.atRest state (.inr rfl)
    exact counted.fail idle unfinished fun _ => RunError.noConfusion
  | choose slot state =>
    rw [become_eq]
    exact counted.of_calls_eq (calls_of_turns_eq
      (Turn.ofPast_reports (.ofRecord (.transition run.state .delivering)) run.past)) rfl rfl rfl
  | start slot stage processor message rest state unfinished idle current found hasProcessor
      popped =>
    have later : (run.opened slot processor message rest).turns =
        run.turns ++ [{ call := rest.callFor slot.stage message }] := turns_eq_concat rfl
    have kind : (rest.callFor slot.stage message).message.kind = slot.kind :=
      Stage.kind_of_pop? popped
    constructor
    · rw [later, Turn.handled_concat, kind, ← counted.requests]
      rfl
    · rw [later, Turn.handled_concat, kind, ← counted.responses]
      rfl
    · rw [later, List.length_append, counted.steps, unended_of_idle idle (by simp [unfinished])]
      rfl
  | refuse flight stage status scene failure polled =>
    obtain ⟨turn, earlier, acts, engaged, acted⟩ := exists_acted sound polled
    have still := engaged_afterPoll job engaged acted
    obtain ⟨requests, responses⟩ :=
      processed_fail job (run.afterPoll job flight.slot.stage scene) (.handler failure)
    refine counted.of_calls_eq (calls_of_latest engaged.turns
      ((ofPast_fail job _ _).trans still.turns) rfl) requests responses ?_
    rw [steps_fail, unended_of_refused (flight_fail job _ _) (outcome_fail job _ _),
      unended_of_flight polled.isFlight]
    rfl
  | wait flight stage scene rest polled =>
    obtain ⟨turn, earlier, acts, engaged, acted⟩ := exists_acted sound polled
    have still := engaged_afterPoll job engaged acted
    refine counted.of_calls_eq (calls_of_latest engaged.turns still.turns rfl) rfl rfl ?_
    rw [unended_of_flight polled.isFlight]
    rfl
  | overreach flight stage scene result polled =>
    obtain ⟨turn, earlier, acts, engaged, acted⟩ := exists_acted sound polled
    obtain ⟨requests, responses⟩ := processed_fail job
      (((run.afterPoll job flight.slot.stage scene).settled flight result).modifyStage
        flight.slot.stage (·.clearViolation)) (.boundary flight.slot.stage flight.processor)
    exact counted.ended polled.isFlight (calls_of_latest engaged.turns
      ((ofPast_fail job _ _).trans (ofPast_afterPoll_settled job engaged acted result)) rfl)
      requests responses (steps_fail job _ _) (unended_fail job _ fun _ => RunError.noConfusion)
  | fail flight stage scene failure polled =>
    obtain ⟨turn, earlier, acts, engaged, acted⟩ := exists_acted sound polled
    obtain ⟨requests, responses⟩ := processed_fail job
      ((run.afterPoll job flight.slot.stage scene).settled flight (.error failure))
      (.processor flight.slot.stage flight.processor flight.slot.kind failure)
    exact counted.ended polled.isFlight (calls_of_latest engaged.turns
      ((ofPast_fail job _ _).trans (ofPast_afterPoll_settled job engaged acted _)) rfl)
      requests responses (steps_fail job _ _) (unended_fail job _ fun _ => RunError.noConfusion)
  | finish flight stage scene polled =>
    obtain ⟨turn, earlier, acts, engaged, acted⟩ := exists_acted sound polled
    obtain ⟨reports, finished⟩ := finish_eq sound.toWired engaged acted
    rw [finished]
    exact counted.ended polled.isFlight (calls_of_latest engaged.turns
      ((Turn.ofPast_reports reports _).trans (ofPast_afterPoll_settled job engaged acted (.ok ())))
      rfl) rfl rfl rfl (unended_of_idle rfl fun failure refused => by
        cases polled.outcome.symm.trans refused)
  | stop => exact counted

/-- **The counters are right in every state that a run comes to.** -/
theorem counted_after (job : Job T η) (received : η) (memory : T.Memory) (n : Nat) :
    Counted ((seed job received memory).after job n) := by
  induction n with
  | zero => exact ⟨rfl, rfl, rfl⟩
  | succ n ih =>
    have sound := sound_after job received memory n
    have awake : Counted ((seed job received memory).after job n).awake :=
      ⟨ih.requests, ih.responses, ih.steps⟩
    exact counted_of_move sound.awake awake (move_step sound)

/-! ## (3) The result -/

/-- **The report of a failure tells the steps.** -/
theorem get?_failedEvent (job : Job T η) (run : Run T η) (error : RunError) :
    (failedEvent job run error).data.bind (·.get? "steps") = some (.nat run.steps) := rfl

/-- **Of the events of a run that has failed** one reports the failure. -/
theorem filter_events_of_failed (job : Job T η) (received : η) (memory : T.Memory) (n : Nat)
    {error : RunError} (wanted : job.config.emitEvents = true)
    (failed : ((seed job received memory).after job n).outcome = some (.error error)) :
    (Journal.events ((seed job received memory).after job n).journal).filter
        (·.type = Event.failedType) =
      [failedEvent job ((seed job received memory).after job n) error] := by
  obtain ⟨milestones, course, chronicled⟩ := course_after job received memory n
  have sound := sound_after job received memory n
  rw [events_of_failed sound course chronicled failed wanted]
  rfl

/-- **The counters of a run tell the truth.** The messages processed are always the callbacks
started with a message of their kind, and the items delivered those that the handler has accepted.
Between callbacks, as long as the run has not failed, all callbacks have ended, and the steps are their
number and the number of messages processed. The summary of a run that succeeds is balanced and
names the number of stages; a run that starves reports the number of its callbacks as its steps; and
the one event that reports a failure tells the number of callbacks, less one exactly if the run has
failed because the handler has refused an item. -/
theorem counters_tell_the_truth (job : Job T η) (received : η) (memory : T.Memory) (n : Nat) :
    let run := (seed job received memory).after job n
    (run.requestsProcessed = Turn.handled .request run.turns ∧
      run.responsesProcessed = Turn.handled .response run.turns ∧
      run.responsesDelivered = (Journal.accepted run.journal).length) ∧
    (run.flight = none → (∀ error, run.outcome ≠ some (.error error)) →
      run.steps = run.requestsProcessed + run.responsesProcessed ∧
      run.steps = run.turns.length ∧ ∀ turn ∈ run.turns, turn.result ≠ none) ∧
    (∀ summary, run.outcome = some (.ok summary) →
      summary.steps = summary.requestsProcessed + summary.responsesProcessed ∧
      summary.isBalanced = true ∧ summary.stageCount = job.pipeline.size ∧
      summary.steps = run.turns.length ∧
      summary.responsesDelivered = (Journal.accepted run.journal).length) ∧
    (∀ steps stages, run.outcome = some (.error (.starvation steps stages)) →
      steps = run.turns.length) ∧
    (∀ error, run.outcome = some (.error error) → job.config.emitEvents = true →
      ∃ event steps, (Journal.events run.journal).filter (·.type = Event.failedType) = [event] ∧
        event.data.bind (·.get? "steps") = some (.nat steps) ∧
        (∀ failure, error = .handler failure → run.turns.length = steps + 1) ∧
        ((∀ failure, error ≠ .handler failure) → run.turns.length = steps)) := by
  intro run
  have sound : Sound job run := sound_after job received memory n
  have counted : Counted run := counted_after job received memory n
  have orderly : Orderly run := orderly_after job received memory n
  have delivered : run.responsesDelivered = (Journal.accepted run.journal).length := by
    rw [Journal.length_accepted]
    exact (delivered_after job received memory n).count
  have balanced : run.flight = none → (∀ error, run.outcome ≠ some (.error error)) →
      run.steps = run.requestsProcessed + run.responsesProcessed ∧
      run.steps = run.turns.length := by
    intro idle unfailed
    have lengths := counted.steps
    rw [unended_of_idle idle fun failure => unfailed (.handler failure)] at lengths
    have kinds := Turn.handled_add_handled run.turns
    rw [← counted.requests, ← counted.responses] at kinds
    omega
  refine ⟨⟨counted.requests, counted.responses, delivered⟩, ?_, ?_, ?_, ?_⟩
  · intro idle unfailed
    obtain ⟨messages, callbacks⟩ := balanced idle unfailed
    exact ⟨messages, callbacks, orderly.result_ne_none unfailed idle⟩
  · intro summary succeeded
    obtain rfl := summary_of_success job received memory n succeeded
    have idle : run.flight = none := sound.flight_eq_none (by rw [succeeded]; simp)
    obtain ⟨messages, callbacks⟩ := balanced idle (by simp [succeeded])
    exact ⟨messages, beq_iff_eq.mpr messages.symm, sound.length_eq, callbacks, delivered⟩
  · intro steps stages starved
    have cause := cause_after job received memory n starved
    cases cause with
    | starvation => rfl
  · intro error failed wanted
    refine ⟨failedEvent job run error, run.steps,
      filter_events_of_failed job received memory n wanted failed, get?_failedEvent job run error,
      ?_, ?_⟩
    · rintro failure rfl
      have idle : run.flight = none := sound.flight_eq_none (by rw [failed]; simp)
      rw [counted.steps, unended_of_refused idle failed]
    · intro other
      have idle : run.flight = none := sound.flight_eq_none (by rw [failed]; simp)
      rw [counted.steps, unended_of_idle idle, Nat.add_zero]
      intro failure refused
      cases failed.symm.trans refused
      exact other failure rfl

end Run

end Relay
