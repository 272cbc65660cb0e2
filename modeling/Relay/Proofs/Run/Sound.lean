import Relay.Proofs.Run.Effects

/-!
# Sound runs

What holds of a run between any two steps. Its stages are those of the job, in order; the caller is
attached to the first one alone and has nothing waiting; the ready queue holds exactly the queues
that have messages; nothing is left over from one callback to the next; and state, chosen message,
callback in flight and outcome fit together.

* `Run.Sound` is the invariant, `Run.sound_seed` says that runs begin with it.
* What the lookup of a stage yields is read off it: `Run.Wired.index_eq`, `Run.Wired.isLast_eq` and
  the like.
-/

namespace Relay

variable {T : Traffic} {η : Type}

/-! ## (1) The invariant -/

/-- The stage as it is before a run. -/
def Stage.blank (stage : Stage T) : Stage T where
  index := stage.index
  stageCount := stage.stageCount
  processor := stage.processor
  runId := stage.runId
  metadata := stage.metadata

namespace Run

/-- **The messages that wait in a queue** of a run. -/
def pendingAt (run : Run T η) (slot : Slot) : List (Message T) :=
  (run.stages[slot.stage]?).elim [] (·.pending slot.kind)

/-- **How state, chosen message, callback in flight and outcome fit together.** -/
inductive Phase (run : Run T η) : Prop where
  /-- The run is about to be announced, or to choose a message. -/
  | atRest (state : run.state = .seeded ∨ run.state = .running) (outcome : run.outcome = none)
      (flight : run.flight = none) (current : run.current = none)
  /-- A message has been chosen; one waits where it was found. -/
  | chosen (slot : Slot) (state : run.state = .delivering) (outcome : run.outcome = none)
      (flight : run.flight = none) (current : run.current = some slot) (ready : slot ∈ run.ready)
  /-- A callback is in flight. -/
  | inFlight (flight : Flight T) (state : run.state = .delivering) (outcome : run.outcome = none)
      (isFlight : run.flight = some flight) (current : run.current = none)
  /-- The run has succeeded. -/
  | succeeded (summary : RunSummary) (state : run.state = .terminated)
      (outcome : run.outcome = some (.ok summary)) (flight : run.flight = none)
  /-- The run has failed. -/
  | failed (error : RunError) (state : run.state = .failed)
      (outcome : run.outcome = some (.error error)) (flight : run.flight = none)

/-- **A callback in flight and its turn**: the latest turn is its own, and has not ended; what has
been sent in it lies in the outbox of its stage, unless the caller has got it. -/
structure Engaged (job : Job T η) (run : Run T η) (flight : Flight T) (stage : Stage T)
    (turn : Turn T) (earlier : List (Turn T)) : Prop where
  found : run.stages[flight.slot.stage]? = some stage
  processor : flight.processor = stage.processor
  turns : Turn.ofPast run.past = turn :: earlier
  place : turn.call.stage = flight.slot.stage
  kind : turn.call.message.kind = flight.slot.kind
  result : turn.result = none
  outbox : stage.outbox = stage.toNeighbours turn.sent
  violation : stage.violation = turn.isRefused
  request?_of_isLast : stage.isLast = true → ∀ message ∈ turn.sent, message.request? = none
  isLast_of_isRefused : turn.isRefused = true → stage.isLast = true

/-- **What holds of stages and ready queue** at any time, a failure included. -/
structure Wired (job : Job T η) (run : Run T η) : Prop where
  blank : run.stages.map Stage.blank = freshStages job
  caller : ∀ {index stage}, run.stages[index]? = some stage →
    stage.caller = if index = 0 then some [] else none
  ready : ∀ slot, slot ∈ run.ready ↔ run.pendingAt slot ≠ []

/-- **A sound run.** -/
structure Sound (job : Job T η) (run : Run T η) : Prop extends Wired job run where
  /-- Between callbacks nothing is left over. -/
  idle : run.outcome = none → ∀ {index stage}, run.stages[index]? = some stage →
    (∀ flight, run.flight = some flight → flight.slot.stage ≠ index) →
    stage.outbox = [] ∧ stage.violation = false
  phase : run.Phase
  engaged : ∀ flight, run.flight = some flight →
    ∃ stage turn earlier, run.Engaged job flight stage turn earlier

/-! ## (2) Waiting messages -/

section Waiting

variable {run : Run T η} {slot : Slot} {stage : Stage T}

/-- The queues of a stage that is there. -/
theorem pendingAt_of_found (found : run.stages[slot.stage]? = some stage) :
    run.pendingAt slot = stage.pending slot.kind := by
  rw [pendingAt, found]
  rfl

/-- No message waits where there is no stage. -/
theorem pendingAt_of_outside (outside : run.stages.length ≤ slot.stage) :
    run.pendingAt slot = [] := by
  rw [pendingAt, List.getElem?_eq_none outside]
  rfl

end Waiting

/-! ## (3) Stages of a sound run -/

namespace Wired

variable {job : Job T η} {run : Run T η} {index : Nat} {stage : Stage T}

/-- There are as many stages as processors. -/
theorem length_eq (wired : Wired job run) : run.stages.length = job.pipeline.size := by
  have lengths := congrArg List.length wired.blank
  simpa [freshStages, Pipeline.size] using lengths

/-- Each place of the pipeline has a stage. -/
theorem exists_stage (wired : Wired job run) (within : index < job.pipeline.size) :
    ∃ stage, run.stages[index]? = some stage :=
  ⟨_, List.getElem?_eq_getElem (wired.length_eq ▸ within)⟩

/-- A stage stands at a place of the pipeline. -/
theorem lt_size (wired : Wired job run) (found : run.stages[index]? = some stage) :
    index < job.pipeline.size := by
  rw [← wired.length_eq]
  exact (List.getElem?_eq_some_iff.mp found).1

/-- **A stage and its processor.** -/
theorem exists_processor (wired : Wired job run) (found : run.stages[index]? = some stage) :
    ∃ processor, job.pipeline.processor? index = some processor ∧ stage.blank =
      { index, stageCount := job.pipeline.size, processor := processor.name,
        runId := job.runId, metadata := job.pipeline.metadata } := by
  have blank := congrArg (·[index]?) wired.blank
  simp only [List.getElem?_map, found, Option.map_some, freshStages, List.getElem?_mapIdx] at blank
  obtain ⟨processor, hasProcessor, same⟩ := Option.map_eq_some_iff.mp blank.symm
  exact ⟨processor, hasProcessor, same.symm⟩

/-- A stage knows its place. -/
theorem index_eq (wired : Wired job run) (found : run.stages[index]? = some stage) :
    stage.index = index := by
  obtain ⟨_, -, blank⟩ := wired.exists_processor found
  exact congrArg Stage.index blank

/-- A stage knows how many there are. -/
theorem stageCount_eq (wired : Wired job run) (found : run.stages[index]? = some stage) :
    stage.stageCount = job.pipeline.size := by
  obtain ⟨_, -, blank⟩ := wired.exists_processor found
  exact congrArg Stage.stageCount blank

/-- The last stage is the one at the last place. -/
theorem isLast_eq (wired : Wired job run) (found : run.stages[index]? = some stage) :
    stage.isLast = (index + 1 == job.pipeline.size) := by
  rw [Stage.isLast, wired.index_eq found, wired.stageCount_eq found]

/-- Only the first stage feeds the caller. -/
theorem feedsCaller_eq (wired : Wired job run) (found : run.stages[index]? = some stage) :
    stage.feedsCaller = (index == 0) := by
  rw [Stage.feedsCaller, wired.index_eq found, wired.caller found]
  by_cases first : index = 0 <;> simp [first]

/-- Nothing waits for the caller. -/
theorem callerQueue_eq_nil (wired : Wired job run) (found : run.stages[index]? = some stage) :
    stage.callerQueue = [] := by
  rw [Stage.callerQueue, wired.caller found]
  split <;> rfl

/-- **Behind a ready slot there is a message**, and a processor to handle it. -/
theorem exists_popped (wired : Wired job run) {slot : Slot} (ready : slot ∈ run.ready) :
    ∃ stage processor message rest, run.stages[slot.stage]? = some stage ∧
      job.pipeline.processor? slot.stage = some processor ∧
      stage.pop? slot.kind = some (message, rest) := by
  have waits := (wired.ready slot).mp ready
  cases found : run.stages[slot.stage]? with
  | none => simp [pendingAt, found] at waits
  | some stage =>
    obtain ⟨processor, hasProcessor, -⟩ := wired.exists_processor found
    rw [pendingAt_of_found found] at waits
    obtain ⟨⟨message, rest⟩, popped⟩ :=
      Option.ne_none_iff_exists'.mp (mt Stage.pop?_eq_none_iff.mp waits)
    exact ⟨stage, processor, message, rest, rfl, hasProcessor, popped⟩

/-- **No item lies in the outbox of the first stage** while its callback is in flight. -/
theorem item?_eq_none (wired : Wired job run) {flight : Flight T} {turn : Turn T}
    {earlier : List (Turn T)} (engaged : Engaged job run flight stage turn earlier)
    (first : flight.slot.stage = 0) {message : Outgoing T} (member : message ∈ stage.outbox) :
    message.item? = none := by
  have feeds := wired.feedsCaller_eq engaged.found
  rw [engaged.outbox, Stage.toNeighbours, if_pos (by simp [feeds, first])] at member
  simpa using (List.mem_filter.mp member).2

end Wired

/-! ## (4) Runs at their beginning -/

/-- The first stage of a job, as it is at the beginning of a run. -/
theorem getElem?_seed_zero (job : Job T η) (received : η) (memory : T.Memory) :
    ∃ stage, (freshStages job)[0]? = some stage ∧
      (seed job received memory).stages[0]? =
        some (stage.enqueueRequest job.request).attachCaller := by
  have isHead : 0 < (freshStages job).length := by
    simpa [freshStages, Pipeline.size] using job.pipeline.size_pos
  refine ⟨_, List.getElem?_eq_getElem isHead, ?_⟩
  simp [seed, List.getElem?_eq_getElem isHead]

/-- All other stages are fresh. -/
theorem getElem?_seed_of_ne (job : Job T η) (received : η) (memory : T.Memory) {index : Nat}
    (notFirst : index ≠ 0) :
    (seed job received memory).stages[index]? = (freshStages job)[index]? :=
  List.getElem?_modify_ne _ _ (Ne.symm notFirst)

/-- Nothing waits at a fresh stage, nor has anything been sent from it. -/
theorem eq_blank_of_fresh {job : Job T η} {index : Nat} {stage : Stage T}
    (fresh : (freshStages job)[index]? = some stage) : stage = stage.blank := by
  rw [freshStages, List.getElem?_mapIdx] at fresh
  obtain ⟨processor, -, rfl⟩ := Option.map_eq_some_iff.mp fresh
  rfl

/-- At the beginning nothing has been kept or sent at any stage. -/
theorem of_getElem?_seed {job : Job T η} {received : η} {memory : T.Memory} {index : Nat}
    {stage : Stage T} (found : (seed job received memory).stages[index]? = some stage) :
    stage.data = .empty ∧ stage.eop = false ∧ stage.outbox = [] ∧ stage.violation = false := by
  by_cases first : index = 0
  · subst first
    obtain ⟨fresh, isFresh, isFirst⟩ := getElem?_seed_zero job received memory
    obtain rfl := Option.some.inj (isFirst.symm.trans found)
    rw [eq_blank_of_fresh isFresh]
    exact ⟨rfl, rfl, rfl, rfl⟩
  · rw [getElem?_seed_of_ne job received memory first] at found
    rw [eq_blank_of_fresh found]
    exact ⟨rfl, rfl, rfl, rfl⟩

/-- **The only message at the beginning** is the request, at the first stage. -/
theorem pendingAt_seed (job : Job T η) (received : η) (memory : T.Memory) (slot : Slot) :
    (seed job received memory).pendingAt slot =
      if slot = ⟨0, .request⟩ then [.request job.request] else [] := by
  obtain ⟨index, kind⟩ := slot
  by_cases first : index = 0
  · subst first
    obtain ⟨stage, fresh, found⟩ := getElem?_seed_zero job received memory
    rw [pendingAt, found, eq_blank_of_fresh fresh]
    cases kind <;> simp [Stage.pending, Stage.blank, Stage.enqueueRequest, Stage.attachCaller]
  · rw [pendingAt, getElem?_seed_of_ne job received memory first]
    cases fresh : (freshStages job)[index]? with
    | none => simp [first]
    | some stage =>
      rw [eq_blank_of_fresh fresh]
      cases kind <;> simp [Stage.pending, Stage.blank, first]

/-- **Runs begin sound.** -/
theorem sound_seed (job : Job T η) (received : η) (memory : T.Memory) :
    Sound job (seed job received memory) where
  blank := by
    refine List.ext_getElem? fun index => ?_
    rw [List.getElem?_map]
    -- The first stage has got the request and the caller, neither of which its make tells.
    by_cases first : index = 0
    · subst first
      obtain ⟨stage, fresh, found⟩ := getElem?_seed_zero job received memory
      rw [found, fresh, Option.map_some]
      exact congrArg some (eq_blank_of_fresh fresh).symm
    · rw [getElem?_seed_of_ne job received memory first]
      cases fresh : (freshStages job)[index]? with
      | none => rfl
      | some stage => exact congrArg some (eq_blank_of_fresh fresh).symm
  caller := by
    intro index stage found
    by_cases first : index = 0
    · subst first
      obtain ⟨fresh, -, isFirst⟩ := getElem?_seed_zero job received memory
      obtain rfl := Option.some.inj (isFirst.symm.trans found)
      rfl
    · rw [getElem?_seed_of_ne job received memory first] at found
      rw [eq_blank_of_fresh found, if_neg first]
      rfl
  ready slot := by
    rw [pendingAt_seed]
    simp [seed]
  idle _ := by
    intro index stage found _
    exact (of_getElem?_seed found).2.2
  phase := .atRest (.inl rfl) rfl rfl rfl
  engaged flight isFlight := by simp [seed] at isFlight

end Run

end Relay
