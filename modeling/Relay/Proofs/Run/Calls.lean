import Relay.Proofs.Conservation
import Relay.Proofs.Run.Flight
import Relay.Proofs.Schedule

/-!
# What calls come from

A callback is called with a message that has waited, when no message waits in the queues that come
before, and when all callbacks before it have ended well. The first is the cause of the call, the
second its place in the schedule. Both are told here of the turns of a run alone, so that they
outlast the state in which the callback has been started.

* `Call.Due` is what a call presupposes of the turns before it.
* `Run.callsDue_after` says that every call of a run is due.
-/

namespace Relay

variable {T : Traffic} {η : Type}

/-! ## (1) Calls that are due -/

/-- **A call that is due** after some turns. -/
structure Call.Due (job : Job T η) (before : List (Turn T)) (call : Call T) : Prop where
  /-- Its stage is one of the pipeline. -/
  within : call.stage < job.pipeline.size
  /-- Its message is the request of the job, or one that has been sent. -/
  waited : call.message ∈ Run.initial job call.slot ++ Turn.contributed call.slot before
  /-- What has been put into the queues that come before its own has been handled. -/
  drained : ∀ slot : Slot, slot.rank < call.slot.rank →
    Turn.delivered slot before = Run.initial job slot ++ Turn.contributed slot before
  /-- The callbacks before it have ended well. -/
  clean : ∀ turn ∈ before, turn.isClean = true

/-- **Turns whose calls are due**, each after those before it. -/
def Turn.AllDue (job : Job T η) (turns : List (Turn T)) : Prop :=
  ∀ before turn behind, turns = before ++ turn :: behind → turn.call.Due job before

/-- One more turn has to be due after all others. -/
theorem Turn.allDue_concat {job : Job T η} {turns : List (Turn T)} {turn : Turn T} :
    AllDue job (turns ++ [turn]) ↔ AllDue job turns ∧ turn.call.Due job turns := by
  constructor
  · intro due
    refine ⟨fun before other behind split => ?_, due turns turn [] rfl⟩
    exact due before other (behind ++ [turn]) (by simp [split])
  · rintro ⟨due, last⟩ before other behind split
    -- The list is taken apart at its last element or before.
    rcases List.eq_nil_or_concat behind with rfl | ⟨rest, latest, rfl⟩
    · obtain ⟨rfl, same⟩ := List.append_inj' split rfl
      obtain rfl := List.singleton_inj.mp same
      exact last
    · have shorter : turns ++ [turn] = (before ++ other :: rest) ++ [latest] := by simp [split]
      exact due before other rest (List.append_inj' shorter rfl).1

namespace Run

variable {job : Job T η} {run next : Run T η}

/-! ## (2) The first queue -/

/-- **The chosen message comes first**: none waits in a queue before its own. -/
def ChoosesFirst (run : Run T η) : Prop :=
  run.state = .delivering → run.flight = none → ∀ slot, run.current = some slot →
    ∀ other : Slot, other.rank < slot.rank → run.pendingAt other = []

/-- **Moves choose the first message.** -/
theorem choosesFirst_of_move (sound : Sound job run) (move : Move job run next) :
    ChoosesFirst next := by
  have failed {mid : Run T η} {error : RunError} : ChoosesFirst (mid.fail job error) :=
    fun state => by cases (state_fail job mid error).symm.trans state
  cases move with
  | announce => exact fun state => by cases state
  | succeed =>
    obtain ⟨reports, succeeded⟩ := run.succeed_eq job
    rw [succeeded]
    exact fun state => by cases state
  | starve => exact failed
  | exceed => exact failed
  | choose slot state eop first free =>
    -- The first slot of the ready queue is chosen, and all queues with messages are ready.
    rintro - - _ ⟨rfl⟩ other before
    by_contra waits
    have least := (ReadyQueue.next?_eq_some_iff.mp first).2 other ((sound.ready other).mpr waits)
    exact absurd before (Nat.not_lt.mpr least)
  | start => exact fun _ idle => by cases idle
  | refuse => exact failed
  | wait => exact fun _ idle => by cases idle
  | overreach => exact failed
  | fail => exact failed
  | finish flight stage scene polled =>
    obtain ⟨turn, earlier, acts, engaged, acted⟩ := exists_acted sound polled
    obtain ⟨reports, finished⟩ := finish_eq sound.toWired engaged acted
    rw [finished]
    exact fun state => by cases state
  | stop isTerminal =>
    intro state
    rw [state] at isTerminal
    cases isTerminal

/-- **In every state that it comes to**, a run has chosen the first message. -/
theorem choosesFirst_after (job : Job T η) (received : η) (memory : T.Memory) (n : Nat) :
    ChoosesFirst ((seed job received memory).after job n) := by
  cases n with
  | zero => exact fun state => by cases state
  | succ n =>
    have sound := sound_after job received memory n
    exact choosesFirst_of_move sound.awake (move_step sound)

/-- **A callback that a step starts** is for the chosen message. -/
theorem chosen_of_started (sound : Sound job run) (idle : run.flight = none) {flight : Flight T}
    (isFlight : (run.step job).flight = some flight) :
    run.state = .delivering ∧ run.outcome = none ∧ run.current = some flight.slot := by
  obtain ⟨delivering, unfinished, -⟩ := (sound_step sound).inFlight isFlight
  cases sound.phase with
  | atRest resting =>
    rcases resting with seeded | running
    · rw [step_of_seeded seeded] at delivering
      cases delivering
    · rcases step_of_running_cases sound running with ⟨result, finished⟩ | ⟨-, stillIdle⟩
      · cases unfinished.symm.trans finished
      · cases stillIdle.symm.trans isFlight
  | chosen _ state outcome =>
    obtain ⟨slot, stage, processor, message, rest, current, -, -, started⟩ :=
      exists_opened sound state idle
    rw [started] at isFlight
    obtain rfl := Option.some.inj isFlight
    exact ⟨state, outcome, current⟩
  | inFlight other _ _ isOther => cases idle.symm.trans isOther
  | succeeded summary _ outcome =>
    rw [step_of_finished sound outcome] at unfinished
    cases outcome.symm.trans unfinished
  | failed error _ outcome =>
    rw [step_of_finished sound outcome] at unfinished
    cases outcome.symm.trans unfinished

/-! ## (3) Calls of a run -/

/-- **The call for the chosen message is due.** -/
theorem due_of_chosen {slot : Slot} {stage rest : Stage T} {message : Message T}
    (processor : Processor T) (sound : Sound job run) (conserved : Conserved job run)
    (orderly : Orderly run) (first : ∀ other : Slot, other.rank < slot.rank →
      run.pendingAt other = [])
    (unfinished : run.outcome = none) (idle : run.flight = none)
    (found : run.stages[slot.stage]? = some stage)
    (popped : stage.pop? slot.kind = some (message, rest)) :
    (rest.callFor slot.stage message).Due job run.turns := by
  have isSlot : (rest.callFor slot.stage message).slot = slot := by
    show (⟨slot.stage, message.kind⟩ : Slot) = slot
    rw [Stage.kind_of_pop? popped]
  have within := sound.lt_size found
  refine ⟨within, ?_, fun other before => ?_, fun turn member => ?_⟩
  · have waits := pendingAt_opened processor found popped slot
    rw [if_pos rfl] at waits
    rw [isSlot, ← conserved slot within, waits]
    exact List.mem_append_right _ List.mem_cons_self
  · rw [isSlot] at before
    have inside : other.stage < job.pipeline.size := by
      have := Slot.rank_lt_iff.mp before
      omega
    rw [← conserved other inside, first other before, List.append_nil]
  · exact orderly.latest (by simp [unfinished]) idle turn (List.mem_reverse.mp member)

/-- **A step keeps the calls of a run due.** -/
theorem callsDue_step (sound : Sound job run) (conserved : Conserved job run)
    (orderly : Orderly run) (first : ChoosesFirst run) (due : Turn.AllDue job run.turns) :
    Turn.AllDue job (run.step job).turns := by
  cases isFlight : run.flight with
  | none =>
    rcases opened_of_move (move_step sound) isFlight with
      ⟨-, -, turns⟩ | ⟨slot, stage, processor, message, rest, found, -, popped, opened⟩
    · have same : (run.step job).turns = run.turns := congrArg List.reverse turns
      rw [same]
      exact due
    · have inFlight := congrArg Run.flight opened
      obtain ⟨state, outcome, current⟩ := chosen_of_started sound isFlight inFlight
      have later : (run.step job).turns =
          run.turns ++ [{ call := rest.callFor slot.stage message }] :=
        turns_eq_concat (by rw [opened]; rfl)
      rw [later]
      exact Turn.allDue_concat.mpr ⟨due, due_of_chosen processor sound conserved orderly
        (first state isFlight slot current) outcome isFlight found popped⟩
  | some flight =>
    -- The latest turn goes on, and keeps its call.
    obtain ⟨stage, turn, late, earlier, acts, acted⟩ :=
      exists_late sound.awake (move_step sound) isFlight
    have before : run.turns = _ := turns_eq_concat acted.engaged.turns
    rw [before, Turn.allDue_concat] at due
    rw [turns_eq_concat acted.turns, Turn.allDue_concat, acted.call]
    exact due

/-- **Every call of a run is due.** -/
theorem callsDue_after (job : Job T η) (received : η) (memory : T.Memory) (n : Nat) :
    Turn.AllDue job ((seed job received memory).after job n).turns := by
  induction n with
  | zero =>
    intro before turn behind split
    cases before <;> cases split
  | succ n ih =>
    exact callsDue_step (sound_after job received memory n) (conserved_after job received memory n)
      (orderly_after job received memory n) (choosesFirst_after job received memory n) ih

end Run

end Relay
