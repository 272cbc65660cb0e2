import Relay.Proofs.Run.Soundness

/-!
# The schedule

The ready queue is only there to make the choice of the next message fast. It holds exactly the
queues with messages, so that its first slot is the one that a look at all stages finds: that of the
lowest stage with a message, its request first. Choosing by the ready queue and choosing by looking
around therefore give the same run, step for step.

* `Run.lookAround_eq_next?` says that both ways find the same message.
* `Run.starved_step_iff` says when a run starves.
* `Run.schedule_exact` puts this together for whole runs.
-/

namespace Relay

variable {T : Traffic} {η : Type}

/-! ## (1) The first slot -/

namespace ReadyQueue

variable {queue : ReadyQueue} {slot : Slot}

/-- There is no first slot exactly if nothing is ready. -/
theorem next?_eq_none_iff : queue.next? = none ↔ ∀ slot, slot ∉ queue := by
  rw [next?, List.head?_eq_none_iff, List.eq_nil_iff_forall_not_mem]
  rfl

/-- **The first slot** is the ready one that comes before all others. -/
theorem next?_eq_some_iff :
    queue.next? = some slot ↔ slot ∈ queue ∧ ∀ other ∈ queue, slot.rank ≤ other.rank := by
  obtain ⟨slots, ordered⟩ := queue
  cases slots with
  | nil =>
    constructor
    · intro isFirst
      cases isFirst
    · rintro ⟨member, -⟩
      cases member
  | cons first rest =>
    have before := (List.pairwise_cons.mp ordered).1
    have isHead : (ReadyQueue.mk (first :: rest) ordered).next? = some first := rfl
    rw [isHead, Option.some_inj]
    constructor
    · rintro rfl
      refine ⟨List.mem_cons_self, fun other member => ?_⟩
      rcases List.mem_cons.mp member with rfl | isLater
      · exact Nat.le_refl _
      · exact Nat.le_of_lt (before other isLater)
    · rintro ⟨member, least⟩
      rcases List.mem_cons.mp member with rfl | isLater
      · rfl
      · have less := before slot isLater
        have notLess := least first List.mem_cons_self
        omega

end ReadyQueue

/-! ## (2) Looking around -/

namespace Stage

variable {stage : Stage T} {slot : Slot}

/-- The message that a look at one stage finds. -/
def next? (stage : Stage T) : Option Slot :=
  if !stage.requests.isEmpty then some ⟨stage.index, .request⟩
  else if !stage.responses.isEmpty then some ⟨stage.index, .response⟩
  else none

/-- Nothing is found at a stage exactly if nothing waits there. -/
theorem next?_eq_none_iff : stage.next? = none ↔ ∀ kind, stage.pending kind = [] := by
  constructor
  · intro nothing kind
    unfold next? at nothing
    cases kind <;> cases requests : stage.requests <;> cases responses : stage.responses <;>
      simp_all [pending]
  · intro empty
    have requests : stage.requests = [] := by simpa [pending] using empty .request
    have responses : stage.responses = [] := by simpa [pending] using empty .response
    simp [next?, requests, responses]

/-- What is found at a stage waits there, and a request is found before a response. -/
theorem of_next?_eq_some (found : stage.next? = some slot) :
    slot.stage = stage.index ∧ stage.pending slot.kind ≠ [] ∧
      ∀ kind, stage.pending kind ≠ [] → slot.kind.rank ≤ kind.rank := by
  unfold next? at found
  split at found
  · obtain rfl := Option.some.inj found
    refine ⟨rfl, ?_, fun kind _ => Nat.zero_le _⟩
    simp_all [pending]
  · split at found
    · obtain rfl := Option.some.inj found
      refine ⟨rfl, by simp_all [pending], fun kind waits => ?_⟩
      cases kind with
      | request => simp_all [pending]
      | response => exact Nat.le_refl _
    · cases found

end Stage

namespace Run

variable {job : Job T η} {run : Run T η} {slot : Slot}

/-- Looking around is looking at one stage after the other. -/
theorem lookAround_eq (run : Run T η) : run.lookAround = run.stages.findSome? Stage.next? := rfl

/-- Looking around finds nothing exactly if no message waits. -/
theorem lookAround_eq_none_iff :
    run.lookAround = none ↔ ∀ slot, run.pendingAt slot = [] := by
  rw [lookAround_eq, List.findSome?_eq_none_iff]
  constructor
  · intro nothing slot
    cases found : run.stages[slot.stage]? with
    | none => rw [pendingAt, found]; rfl
    | some stage =>
      rw [pendingAt_of_found found]
      exact Stage.next?_eq_none_iff.mp (nothing stage (List.mem_of_getElem? found)) slot.kind
  · intro empty stage member
    obtain ⟨index, found⟩ := List.mem_iff_getElem?.mp member
    refine Stage.next?_eq_none_iff.mpr fun kind => ?_
    have pending : run.pendingAt ⟨index, kind⟩ = stage.pending kind := pendingAt_of_found found
    rw [← pending]
    exact empty ⟨index, kind⟩

/-- **What looking around finds** waits, and comes before all else that waits. -/
theorem of_lookAround_eq_some (wired : Wired job run) (looked : run.lookAround = some slot) :
    run.pendingAt slot ≠ [] ∧ ∀ other, run.pendingAt other ≠ [] → slot.rank ≤ other.rank := by
  rw [lookAround_eq, List.findSome?_eq_some_iff] at looked
  obtain ⟨before, stage, behind, isSplit, isNext, nothingBefore⟩ := looked
  obtain ⟨atStage, waits, first⟩ := Stage.of_next?_eq_some isNext
  have found : run.stages[before.length]? = some stage := by rw [isSplit]; simp
  have place : slot.stage = before.length := atStage.trans (wired.index_eq found)
  constructor
  · rw [pendingAt, place, found]
    exact waits
  · intro other otherWaits
    -- Nothing waits at the stages that have been passed by.
    have notEarlier : ¬ other.stage < before.length := by
      intro earlier
      have foundEarlier : run.stages[other.stage]? = some before[other.stage] := by
        rw [isSplit, List.getElem?_append_left earlier]
        exact List.getElem?_eq_getElem earlier
      rw [pendingAt_of_found foundEarlier] at otherWaits
      have nothing := nothingBefore _ (List.getElem_mem earlier)
      exact otherWaits (Stage.next?_eq_none_iff.mp nothing other.kind)
    refine Nat.le_of_not_lt fun less => ?_
    rcases Slot.rank_lt_iff.mp less with lower | ⟨same, earlierKind⟩
    · omega
    · have foundSame : run.stages[other.stage]? = some stage := by rw [same, place, found]
      rw [pendingAt_of_found foundSame] at otherWaits
      have := first other.kind otherWaits
      omega

/-- **Both ways of choosing find the same message.** -/
theorem lookAround_eq_next? (wired : Wired job run) : run.lookAround = run.ready.next? := by
  cases looked : run.lookAround with
  | none =>
    have empty := lookAround_eq_none_iff.mp looked
    refine (ReadyQueue.next?_eq_none_iff.mpr fun slot ready => ?_).symm
    exact (wired.ready slot).mp ready (empty slot)
  | some slot =>
    obtain ⟨waits, first⟩ := of_lookAround_eq_some wired looked
    refine (ReadyQueue.next?_eq_some_iff.mpr ⟨(wired.ready slot).mpr waits, ?_⟩).symm
    intro other ready
    exact first other ((wired.ready other).mp ready)

/-! ## (3) Whole runs -/

/-- **The run after a number of steps that look around** for the next message. -/
def afterLookingAround (job : Job T η) (run : Run T η) : Nat → Run T η
  | 0 => run
  | n + 1 => (run.afterLookingAround job n).stepLookingAround job

/-- One step is the same, however the next message is found. -/
theorem stepLookingAround_eq (sound : Sound job run) :
    run.stepLookingAround job = run.step job := by
  have same : run.awake.lookAround = run.awake.ready.next? :=
    lookAround_eq_next? sound.awake.toWired
  -- A step takes notice of the message found and of nothing else in which they could differ.
  have looking : run.stepLookingAround job = stepBy (fun _ => run.awake.lookAround) job run := rfl
  rw [looking, same]
  rfl

/-- **The schedule of the ready queue is that of looking around**, step for step. -/
theorem after_eq_afterLookingAround (job : Job T η) (received : η) (memory : T.Memory) (n : Nat) :
    (seed job received memory).after job n =
      (seed job received memory).afterLookingAround job n := by
  induction n with
  | zero => rfl
  | succ n ih =>
    rw [after, afterLookingAround, ← ih]
    exact (stepLookingAround_eq (sound_after job received memory n)).symm

/-- Whether a run has failed because nothing was there to be handled. -/
def Starved (run : Run T η) : Prop :=
  ∃ steps stages, run.outcome = some (.error (.starvation steps stages))

/-- **Whether a run is about to choose** although no message waits anywhere and the end of the pipe
has not reached the caller. -/
def Starving (run : Run T η) : Prop :=
  run.state = .running ∧ run.eopReached = false ∧
    ∀ stage ∈ run.stages, stage.requests = [] ∧ stage.responses = []

/-- Nothing is ready exactly if all queues of all stages are empty. -/
theorem next?_eq_none_iff_forall_empty (wired : Wired job run) :
    run.ready.next? = none ↔
      ∀ stage ∈ run.stages, stage.requests = [] ∧ stage.responses = [] := by
  rw [← lookAround_eq_next? wired, lookAround_eq, List.findSome?_eq_none_iff]
  refine forall₂_congr fun stage _ => ?_
  rw [Stage.next?_eq_none_iff]
  constructor
  · intro empty
    exact ⟨by simpa [Stage.pending] using empty .request,
      by simpa [Stage.pending] using empty .response⟩
  · rintro ⟨requests, responses⟩ kind
    cases kind <;> simp [Stage.pending, requests, responses]

/-- A run fails with the error that it is told. -/
theorem starved_fail_iff {error : RunError} :
    (run.fail job error).Starved ↔ ∃ steps stages, error = .starvation steps stages := by
  obtain ⟨reports, failed⟩ := run.fail_eq job error
  rw [failed]
  simp [Starved]

/-- A run that is not about to choose does not starve. -/
theorem not_starving (state : run.state ≠ .running) : ¬ run.Starving :=
  fun starving => state starving.1

/-- A run that does not starve has starved afterwards only if it had before. -/
theorem starved_iff_of_outcome_eq {next : Run T η} (same : next.outcome = run.outcome)
    (fed : ¬ run.Starving) : next.Starved ↔ run.Starved ∨ run.Starving := by
  rw [or_iff_left fed, Starved, Starved, same]

/-- Other failures are no starvation. -/
theorem starved_iff_of_fail {ending : Run T η} {error : RunError} (unfinished : run.outcome = none)
    (fed : ¬ run.Starving) (other : ∀ steps stages, error ≠ .starvation steps stages) :
    (ending.fail job error).Starved ↔ run.Starved ∨ run.Starving := by
  refine iff_of_false ?_ (not_or.mpr ⟨?_, fed⟩)
  · rw [starved_fail_iff]
    rintro ⟨steps, stages, isStarvation⟩
    exact other steps stages isStarvation
  · rintro ⟨steps, stages, finished⟩
    cases unfinished.symm.trans finished

/-- **A run has starved after a step** exactly if it had before or was starving. -/
theorem starved_step_iff (sound : Sound job run) :
    (run.step job).Starved ↔ run.Starved ∨ run.Starving := by
  -- Only a run that is about to choose can starve, and only if nothing is ready.
  have delivering : run.state = .delivering → ¬ run.Starving := fun state =>
    not_starving (by rw [state]; exact RunState.noConfusion)
  have fed : run.ready.next? ≠ none → ¬ run.Starving := fun isFed starving =>
    isFed ((next?_eq_none_iff_forall_empty sound.toWired).mpr starving.2.2)
  generalize isNext : run.step job = next
  have move := isNext ▸ move_step sound
  cases move with
  | announce state =>
    obtain ⟨reports, announced⟩ := run.awake.announce_eq job
    have seeded : run.state = .seeded := state
    rw [announced, become_eq]
    exact starved_iff_of_outcome_eq rfl (not_starving (by rw [seeded]; exact RunState.noConfusion))
  | succeed state eop =>
    obtain ⟨unfinished, -, -⟩ := sound.atRest state (.inr rfl)
    obtain ⟨reports, succeeded⟩ := run.awake.succeed_eq job
    have reached : run.eopReached = true := eop
    rw [succeeded]
    refine iff_of_false ?_ (not_or.mpr ⟨?_, ?_⟩)
    · rintro ⟨steps, stages, failed⟩
      cases failed
    · rintro ⟨steps, stages, finished⟩
      cases unfinished.symm.trans finished
    · rintro ⟨-, notReached, -⟩
      cases reached.symm.trans notReached
  | starve state eop next =>
    refine iff_of_true (starved_fail_iff.mpr ⟨_, _, rfl⟩) (.inr ⟨state, eop, ?_⟩)
    exact (next?_eq_none_iff_forall_empty sound.toWired).mp next
  | exceed slot limit state eop next reached =>
    obtain ⟨unfinished, -, -⟩ := sound.atRest state (.inr rfl)
    have isNext : run.ready.next? = some slot := next
    exact starved_iff_of_fail unfinished (fed (by simp [isNext])) fun _ _ => RunError.noConfusion
  | choose slot state eop next free =>
    have isNext : run.ready.next? = some slot := next
    exact starved_iff_of_outcome_eq rfl (fed (by simp [isNext]))
  | start slot stage processor message rest state =>
    exact starved_iff_of_outcome_eq rfl (delivering state)
  | refuse flight stage status scene failure polled =>
    exact starved_iff_of_fail polled.outcome (delivering polled.state)
      fun _ _ => RunError.noConfusion
  | wait flight stage scene rest polled =>
    exact starved_iff_of_outcome_eq rfl (delivering polled.state)
  | overreach flight stage scene result polled =>
    exact starved_iff_of_fail polled.outcome (delivering polled.state)
      fun _ _ => RunError.noConfusion
  | fail flight stage scene failure polled =>
    exact starved_iff_of_fail polled.outcome (delivering polled.state)
      fun _ _ => RunError.noConfusion
  | finish flight stage scene polled =>
    obtain ⟨turn, earlier, acts, engaged, acted⟩ := exists_acted sound.awake polled
    obtain ⟨reports, finished⟩ := finish_eq sound.awake.toWired engaged acted
    rw [finished]
    exact starved_iff_of_outcome_eq rfl (delivering polled.state)
  | stop isTerminal =>
    have terminal : run.state.isTerminal = true := isTerminal
    refine starved_iff_of_outcome_eq rfl (not_starving fun state => ?_)
    rw [state] at terminal
    cases terminal

/-- **A run has starved exactly if it once was starving.** -/
theorem starved_after_iff (job : Job T η) (received : η) (memory : T.Memory) (n : Nat) :
    ((seed job received memory).after job n).Starved ↔
      ∃ m < n, ((seed job received memory).after job m).Starving := by
  induction n with
  | zero => simp [after, Starved, seed]
  | succ n ih =>
    rw [after, starved_step_iff (sound_after job received memory n), ih]
    constructor
    · rintro (⟨m, before, starving⟩ | starving)
      · exact ⟨m, Nat.lt_succ_of_lt before, starving⟩
      · exact ⟨n, Nat.lt_succ_self n, starving⟩
    · rintro ⟨m, before, starving⟩
      rcases Nat.lt_succ_iff_lt_or_eq.mp before with earlier | rfl
      · exact .inl ⟨m, earlier, starving⟩
      · exact .inr starving

/-- Behind a chosen slot there is a message, and a processor to handle it. -/
theorem exists_chosen (sound : Sound job run) (state : run.state = .delivering)
    (flight : run.flight = none) :
    ∃ slot stage processor message rest, run.current = some slot ∧
      run.stages[slot.stage]? = some stage ∧
      job.pipeline.processor? slot.stage = some processor ∧
      stage.pop? slot.kind = some (message, rest) := by
  obtain ⟨slot, current, ready, -⟩ := sound.exists_chosen state flight
  obtain ⟨stage, processor, message, rest, found, hasProcessor, popped⟩ := sound.exists_popped ready
  exact ⟨slot, stage, processor, message, rest, current, found, hasProcessor, popped⟩

/-- **The ready queue is exact and gives the schedule of looking around.** In every state that a run
comes to, a slot is ready exactly if its stage is one of the pipeline and has a message of that
kind; the run is the one that looks at all stages before each step; behind a chosen slot there
always is a message; and the run has starved exactly if it once was about to choose with all queues
empty and the end of the pipe not out. -/
theorem schedule_exact (job : Job T η) (received : η) (memory : T.Memory) (n : Nat) :
    let run := (seed job received memory).after job n
    run.stages.length = job.pipeline.size ∧
    (∀ index, ⟨index, .request⟩ ∈ run.ready ↔
      ∃ stage, run.stages[index]? = some stage ∧ stage.requests ≠ []) ∧
    (∀ index, ⟨index, .response⟩ ∈ run.ready ↔
      ∃ stage, run.stages[index]? = some stage ∧ stage.responses ≠ []) ∧
    (∀ slot ∈ run.ready, slot.stage < job.pipeline.size) ∧
    run = (seed job received memory).afterLookingAround job n ∧
    (run.state = .delivering → run.flight = none →
      ∃ slot stage processor message rest, run.current = some slot ∧
        run.stages[slot.stage]? = some stage ∧
        job.pipeline.processor? slot.stage = some processor ∧
        stage.pop? slot.kind = some (message, rest)) ∧
    (run.Starved ↔ ∃ m < n, ((seed job received memory).after job m).Starving) := by
  intro run
  have sound : Sound job run := sound_after job received memory n
  have isReady : ∀ slot, slot ∈ run.ready ↔
      ∃ stage, run.stages[slot.stage]? = some stage ∧ stage.pending slot.kind ≠ [] := by
    intro slot
    rw [sound.ready, pendingAt]
    cases run.stages[slot.stage]? <;> simp
  refine ⟨sound.length_eq, ?_, ?_, ?_, after_eq_afterLookingAround job received memory n,
    exists_chosen sound, starved_after_iff job received memory n⟩
  · intro index
    rw [isReady]
    simp [Stage.pending]
  · intro index
    rw [isReady]
    simp [Stage.pending]
  · intro slot ready
    obtain ⟨stage, found, -⟩ := (isReady slot).mp ready
    exact sound.lt_size found

end Run

end Relay
