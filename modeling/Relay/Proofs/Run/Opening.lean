import Relay.Proofs.Run.Moves

/-!
# Opening a callback

A callback is opened by taking its message from the front of the queue where it waits. This moves
that one message and nothing else, and the ready queue follows.

* `Run.pendingAt_opened` says what the queues held before.
* `Run.sound_opened` says that the run stays sound.
-/

namespace Relay

variable {T : Traffic} {η : Type}

/-! ## (1) Taking a message -/

namespace Stage

variable {stage rest : Stage T} {kind : MessageKind} {message : Message T}

/-- Taking a message moves nothing but queues. -/
theorem rest_of_pop? (popped : stage.pop? kind = some (message, rest)) :
    rest = { stage with requests := rest.requests, responses := rest.responses } := by
  cases kind with
  | request =>
    cases queue : stage.requests <;> simp [pop?, queue] at popped
    rw [← popped.2]
  | response =>
    cases queue : stage.responses <;> simp [pop?, queue] at popped
    rw [← popped.2]

/-- The message taken is of the kind asked for. -/
theorem kind_of_pop? (popped : stage.pop? kind = some (message, rest)) : message.kind = kind := by
  cases kind with
  | request =>
    cases queue : stage.requests <;> simp [pop?, queue] at popped
    rw [← popped.1]
    rfl
  | response =>
    cases queue : stage.responses <;> simp [pop?, queue] at popped
    rw [← popped.1]
    rfl

/-- The messages of the other kind stay where they are. -/
theorem pending_of_pop?_of_ne {other : MessageKind} (different : other ≠ kind)
    (popped : stage.pop? kind = some (message, rest)) :
    rest.pending other = stage.pending other := by
  cases kind with
  | request =>
    cases queue : stage.requests <;> simp [pop?, queue] at popped
    cases other <;> simp_all [pending]
    rw [← popped.2]
  | response =>
    cases queue : stage.responses <;> simp [pop?, queue] at popped
    cases other <;> simp_all [pending]
    rw [← popped.2]

end Stage

/-! ## (2) Replacing a stage -/

section Lists

variable {α β : Type} {list : List α} {index place : Nat} {a b : α}

/-- A change of an element that is there is a replacement. -/
theorem modify_eq_set (f : α → α) (found : list[index]? = some a) :
    list.modify index f = list.set index (f a) := by
  have within := (List.getElem?_eq_some_iff.mp found).1
  refine List.ext_getElem? fun other => ?_
  by_cases here : index = other
  · rw [← here, List.getElem?_modify_eq, List.getElem?_set_self within, found]
    rfl
  · rw [List.getElem?_modify_ne f list here, List.getElem?_set_ne here]

/-- After a replacement there are the new element and the other old ones. -/
theorem getElem?_set_cases (found : (list.set index a)[place]? = some b) :
    (place = index ∧ b = a) ∨ (place ≠ index ∧ list[place]? = some b) := by
  rw [List.getElem?_set] at found
  by_cases here : index = place
  · rw [if_pos here] at found
    split at found
    · exact .inl ⟨here.symm, (Option.some.inj found).symm⟩
    · cases found
  · rw [if_neg here] at found
    exact .inr ⟨Ne.symm here, found⟩

/-- What a replacement leaves as it was cannot tell that it was made. -/
theorem map_set_of_eq (f : α → β) (found : list[index]? = some a) (same : f b = f a) :
    (list.set index b).map f = list.map f := by
  have within := (List.getElem?_eq_some_iff.mp found).1
  refine List.ext_getElem? fun other => ?_
  rw [List.getElem?_map, List.getElem?_map]
  by_cases here : index = other
  · rw [← here, found, List.getElem?_set_self within, Option.map_some, Option.map_some, same]
  · rw [List.getElem?_set_ne here]

end Lists

namespace Run

variable {job : Job T η} {run : Run T η}

/-- A change of a stage that is there replaces it. -/
theorem modifyStage_eq {index : Nat} {stage : Stage T} (change : Stage T → Stage T)
    (found : run.stages[index]? = some stage) :
    run.modifyStage index change =
      { run with stages := run.stages.set index (change stage) } := by
  rw [modifyStage, modify_eq_set change found]

/-- The other queues do not notice a replaced stage. -/
theorem pendingAt_set_of_ne {index : Nat} {slot : Slot} (stage : Stage T)
    (elsewhere : slot.stage ≠ index) :
    ({ run with stages := run.stages.set index stage }).pendingAt slot = run.pendingAt slot := by
  rw [pendingAt, pendingAt]
  exact congrArg (Option.elim · [] _) (List.getElem?_set_ne (Ne.symm elsewhere))

/-- The queues of a replaced stage are those of the new one. -/
theorem pendingAt_set_self {slot : Slot} {stage : Stage T}
    (found : run.stages[slot.stage]? = some stage) (other : Stage T) :
    ({ run with stages := run.stages.set slot.stage other }).pendingAt slot =
      other.pending slot.kind := by
  rw [pendingAt]
  exact congrArg (Option.elim · [] _)
    (List.getElem?_set_self (List.getElem?_eq_some_iff.mp found).1)

/-- A replacement by a stage with the same queues is none, as far as queues go. -/
theorem pendingAt_set {index : Nat} {stage other : Stage T}
    (found : run.stages[index]? = some stage)
    (pending : ∀ kind, other.pending kind = stage.pending kind) (slot : Slot) :
    ({ run with stages := run.stages.set index other }).pendingAt slot = run.pendingAt slot := by
  by_cases here : slot.stage = index
  · subst here
    rw [pendingAt_set_self found, pendingAt_of_found found, pending]
  · exact pendingAt_set_of_ne other here

namespace Wired

variable {index : Nat} {stage other : Stage T}

/-- A stage of the same make changes nothing about the make of the stages. -/
theorem blank_set (wired : Wired job run) (found : run.stages[index]? = some stage)
    (blank : other.blank = stage.blank) :
    (run.stages.set index other).map Stage.blank = freshStages job :=
  (map_set_of_eq Stage.blank found blank).trans wired.blank

/-- A stage with the same caller changes nothing about where the caller is attached. -/
theorem caller_set (wired : Wired job run) (found : run.stages[index]? = some stage)
    (caller : other.caller = stage.caller) {place : Nat} {replaced : Stage T}
    (isReplaced : (run.stages.set index other)[place]? = some replaced) :
    replaced.caller = if place = 0 then some [] else none := by
  rcases getElem?_set_cases isReplaced with ⟨here, rfl⟩ | ⟨-, isOld⟩
  · rw [caller, wired.caller found, here]
  · exact wired.caller isOld

/-- **A wired run stays wired** when a stage is replaced by one with the same make and queues. -/
theorem set (wired : Wired job run) (other : Stage T) (found : run.stages[index]? = some stage)
    (blank : other.blank = stage.blank) (caller : other.caller = stage.caller)
    (pending : ∀ kind, other.pending kind = stage.pending kind) :
    Wired job { run with stages := run.stages.set index other } where
  blank := wired.blank_set found blank
  caller := wired.caller_set found caller
  ready slot := by
    rw [pendingAt_set found pending]
    exact wired.ready slot

/-- **A wired run fails soundly.** -/
theorem fail (wired : Wired job run) (error : RunError) : Sound job (run.fail job error) := by
  obtain ⟨reports, failed⟩ := run.fail_eq job error
  rw [failed]
  exact
    { blank := wired.blank
      caller := wired.caller
      ready := wired.ready
      idle := fun unfinished => by cases unfinished
      phase := .failed error rfl rfl rfl
      engaged := fun _ isFlight => by cases isFlight }

end Wired

/-! ## (3) Starting -/

/-- A callback that is started replaces its stage. -/
theorem stages_opened {slot : Slot} {stage : Stage T} (processor : Processor T)
    (message : Message T) (rest : Stage T) (found : run.stages[slot.stage]? = some stage) :
    (run.opened slot processor message rest).stages = run.stages.set slot.stage rest :=
  modify_eq_set (fun _ => rest) found

/-- **Starting a callback takes the message** from the front of its queue, and from nowhere else. -/
theorem pendingAt_opened {slot : Slot} {stage rest : Stage T} {message : Message T}
    (processor : Processor T) (found : run.stages[slot.stage]? = some stage)
    (popped : stage.pop? slot.kind = some (message, rest)) (other : Slot) :
    run.pendingAt other = (if other = slot then [message] else []) ++
      (run.opened slot processor message rest).pendingAt other := by
  have stages := stages_opened processor message rest found
  have pending : (run.opened slot processor message rest).pendingAt other =
      ({ run with stages := run.stages.set slot.stage rest }).pendingAt other := by
    rw [pendingAt, stages]
    rfl
  rw [pending]
  -- At the stage itself only the queue of that kind changes, and at the others none does.
  by_cases here : other.stage = slot.stage
  · have foundOther : run.stages[other.stage]? = some stage := here ▸ found
    rw [← here, pendingAt_set_self foundOther, pendingAt_of_found foundOther]
    by_cases sameKind : other.kind = slot.kind
    · rw [if_pos (by cases other; cases slot; simp_all), sameKind]
      exact Stage.pending_of_pop? popped
    · rw [if_neg fun same => sameKind (congrArg Slot.kind same)]
      exact (Stage.pending_of_pop?_of_ne sameKind popped).symm
  · rw [if_neg fun same => here (congrArg Slot.stage same), pendingAt_set_of_ne rest here]
    rfl

/-- A message is in the queue that it is taken from. -/
theorem mem_opened_ready {slot : Slot} {stage rest : Stage T} {message : Message T}
    (wired : Wired job run) (processor : Processor T)
    (found : run.stages[slot.stage]? = some stage)
    (popped : stage.pop? slot.kind = some (message, rest)) (other : Slot) :
    other ∈ (run.opened slot processor message rest).ready ↔
      (run.opened slot processor message rest).pendingAt other ≠ [] := by
  have before := wired.ready other
  rw [pendingAt_opened processor found popped other] at before
  have left : (run.opened slot processor message rest).pendingAt slot = rest.pending slot.kind := by
    rw [pendingAt, stages_opened processor message rest found,
      List.getElem?_set_self (List.getElem?_eq_some_iff.mp found).1]
    rfl
  have ready : (run.opened slot processor message rest).ready =
      if (rest.pending slot.kind).isEmpty then run.ready.clear slot else run.ready := rfl
  rw [ready]
  by_cases here : other = slot
  · -- The queue itself stays marked exactly if something is left in it.
    subst here
    rw [left]
    have marked : other ∈ run.ready := by rw [before]; simp
    cases isEmpty : (rest.pending other.kind).isEmpty with
    | true => simp_all
    | false => simpa [marked] using isEmpty
  · rw [if_neg here, List.nil_append] at before
    rw [← before]
    split
    · simp [here]
    · rfl

/-- **A callback is started soundly.** -/
theorem sound_opened {slot : Slot} {stage rest : Stage T} {message : Message T}
    {processor : Processor T} (sound : Sound job run) (state : run.state = .delivering)
    (outcome : run.outcome = none) (flight : run.flight = none)
    (found : run.stages[slot.stage]? = some stage)
    (hasProcessor : job.pipeline.processor? slot.stage = some processor)
    (popped : stage.pop? slot.kind = some (message, rest)) :
    Sound job (run.opened slot processor message rest) := by
  have isRest := Stage.rest_of_pop? popped
  have stages := stages_opened processor message rest found
  have blank : rest.blank = stage.blank := by rw [isRest]; rfl
  obtain ⟨outbox, violation⟩ := sound.idle outcome found (by simp [flight])
  refine
    { blank := ?blank
      caller := ?caller
      ready := mem_opened_ready sound.toWired processor found popped
      idle := ?idle
      phase := .inFlight _ state outcome rfl rfl
      engaged := ?engaged }
  case blank =>
    rw [stages]
    exact sound.blank_set found blank
  case caller =>
    intro place replaced isReplaced
    rw [stages] at isReplaced
    exact sound.caller_set found (by rw [isRest]) isReplaced
  case idle =>
    intro _ place replaced isReplaced elsewhere
    rw [stages] at isReplaced
    rcases getElem?_set_cases isReplaced with ⟨here, -⟩ | ⟨-, isOld⟩
    · exact absurd here.symm (elsewhere _ rfl)
    · exact sound.idle outcome isOld (by simp [flight])
  case engaged =>
    rintro _ ⟨rfl⟩
    obtain ⟨same, isProcessor, make⟩ := sound.exists_processor found
    obtain rfl := Option.some.inj (hasProcessor.symm.trans isProcessor)
    refine ⟨rest, { call := rest.callFor slot.stage message }, Turn.ofPast run.past, ?_⟩
    exact
      { found := by
          rw [stages]
          exact List.getElem?_set_self (List.getElem?_eq_some_iff.mp found).1
        processor := (congrArg Stage.processor (blank.trans make)).symm
        turns := rfl
        place := rfl
        kind := Stage.kind_of_pop? popped
        result := rfl
        outbox := by rw [isRest, Stage.toNeighbours_nil]; exact outbox
        violation := by rw [isRest]; exact violation
        request?_of_isLast := by simp
        isLast_of_isRefused := by simp }

end Run

end Relay
