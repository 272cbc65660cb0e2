import Relay.Proofs.Pauses.Alike

/-!
# Polls that pause

A poll that pauses leaves a run from which the callback without pauses comes to the very end that it
would have come to before: what has been sent up to the pause has only been offered earlier. If an
item of these is refused, it would have been refused without the pause as well.

* `Callback.Resumed` tells how a callback that has paused goes on.
* `Run.alike_of_waiting` and `Run.refused_of_waiting` are about the steps that pause.
-/

namespace Relay

variable {T : Traffic} {η : Type}

/-! ## (1) Pauses in a callback -/

/-- A stage is what it is without items for the caller, and these items. -/
theorem Stage.owing_clearCaller (stage : Stage T) :
    stage.clearCaller.owing stage.callerQueue = stage := by
  have caller : (stage.caller.map fun _ => []).map (stage.callerQueue ++ ·) = stage.caller := by
    cases caller : stage.caller <;> simp [callerQueue, caller]
  show { stage with caller := (stage.caller.map fun _ => []).map (stage.callerQueue ++ ·) } = stage
  rw [caller]

/-- Items from before are taken away with the others. -/
theorem Stage.clearCaller_owing (stage : Stage T) (items : List T.Response) :
    (stage.owing items).clearCaller = stage.clearCaller := by
  cases caller : stage.caller <;> simp [owing, clearCaller, caller]

/-- Items from before are on their way in front of the others. -/
theorem Stage.callerQueue_owing {stage : Stage T} {items : List T.Response}
    (attached : stage.caller = none → items = []) :
    (stage.owing items).callerQueue = items ++ stage.callerQueue := by
  cases caller : stage.caller with
  | none => simp [owing, callerQueue, caller, attached caller]
  | some queue => simp [owing, callerQueue, caller]

namespace Callback

/-- A poll attaches no caller, and detaches none. -/
theorem caller_poll {α : Type} (callback : Callback T α) {scene : Scene T}
    (detached : (callback.poll scene).2.stage.caller = none) : scene.stage.caller = none := by
  obtain ⟨acts, acted⟩ := callback.poll_acted scene
  rw [acted.stage] at detached
  exact Option.map_eq_none_iff.mp detached

/-- **A callback that goes on behind a pause.** Without the pause it goes through to the same end, and
acts on the same scene but for the items that are on their way by then, and for the journal. -/
structure Resumed (callback rest : Callback T Unit) (scene later : Scene T)
    (result : Except Failure Unit) (ending : Scene T) (mid : List (Entry T)) : Prop where
  paused : ∃ index, later.past = .paused index :: mid ∧
    ∀ entry ∈ ending.past, entry.isActAt index = true
  detached : ending.stage.caller = none → later.stage.callerQueue = []
  through : callback.unpaused.poll scene =
    (.finished result, ending.onto later.stage.callerQueue mid)
  again : ∀ past, rest.unpaused.poll ⟨later.stage.clearCaller, later.memory, past⟩ =
    (.finished result, ending.onto [] past)

/-- **A poll that pauses** leaves a callback that goes on. -/
theorem exists_resumed {callback rest : Callback T Unit} {scene later : Scene T}
    (waiting : callback.poll scene = (.waiting rest, later)) :
    ∃ result ending mid, Resumed callback rest scene later result ending mid := by
  obtain ⟨mid, rfl, same⟩ := exists_pause waiting
  -- The rest is polled with no items on their way and no journal. Both polls asked about are this
  -- one, put onto what has been before.
  let cleared : Scene T := ⟨mid.stage.clearCaller, mid.memory, []⟩
  obtain ⟨result, ending, alone⟩ := rest.poll_unpaused cleared
  refine ⟨result, ending, mid.past, ⟨mid.stage.index, rfl, ?_⟩, ?_, ?_, ?_⟩
  · intro entry member
    obtain ⟨acts, acted⟩ := rest.unpaused.poll_acted cleared
    rw [alone] at acted
    rw [acted.past, List.append_nil] at member
    exact acted.areActs entry member
  · intro detached
    have noCaller : (rest.unpaused.poll cleared).2.stage.caller = none := by
      rw [alone]
      exact detached
    have before := Option.map_eq_none_iff.mp (rest.unpaused.caller_poll noCaller)
    show mid.stage.caller.getD [] = []
    rw [before]
    rfl
  · have goesOn : mid = cleared.onto mid.stage.callerQueue mid.past := by
      rw [Scene.onto, Stage.owing_clearCaller]
      rfl
    have through := rest.unpaused.poll_onto cleared mid.stage.callerQueue mid.past
    rw [← goesOn, alone] at through
    exact same.trans through
  · intro past
    have anew : cleared.onto [] past = ⟨mid.stage.clearCaller, mid.memory, past⟩ := by
      rw [Scene.onto, Stage.owing_nil]
      rfl
    have again := rest.unpaused.poll_onto cleared [] past
    rw [anew, alone] at again
    exact again

/-- Without the pause all items are on their way together. -/
theorem Resumed.callerQueue {callback rest : Callback T Unit} {scene later : Scene T}
    {result : Except Failure Unit} {ending : Scene T} {mid : List (Entry T)}
    (resumed : Resumed callback rest scene later result ending mid) :
    (ending.onto later.stage.callerQueue mid).stage.callerQueue =
      later.stage.callerQueue ++ ending.stage.callerQueue :=
  Stage.callerQueue_owing resumed.detached

end Callback

namespace Run

variable {job : Job T η} {run : Run T η}

/-! ## (2) What follows from a poll -/

/-- **The run with no callback in flight.** -/
def grounded (run : Run T η) : Run T η := { run with flight := none }

/-- **What follows from the last poll of a callback**: the run fails if an item has been refused,
and else the callback is settled. -/
def conclude (job : Job T η) (run : Run T η) (flight : Flight T) (result : Except Failure Unit) :
    Option Failure → Run T η
  | some failure => run.fail job (.handler failure)
  | none => run.settle job flight result

/-- The last poll of a callback. -/
theorem pollFlight_eq_conclude {flight : Flight T} {stage : Stage T} {scene : Callback.Scene T}
    {result : Except Failure Unit} (found : run.stages[flight.slot.stage]? = some stage)
    (polled : flight.callback.poll ⟨stage, run.memory, run.past⟩ = (.finished result, scene)) :
    run.pollFlight job flight = (run.afterPoll job flight.slot.stage scene).conclude job flight
      result (job.handler.offer run.received scene.stage.callerQueue).2.2 := by
  cases verdict : (job.handler.offer run.received scene.stage.callerQueue).2.2 with
  | some failure => exact pollFlight_of_refused found polled verdict
  | none => exact pollFlight_of_finished found polled verdict

/-- What follows does not hang on the callback, which is over. -/
theorem conclude_grounded (job : Job T η) (run : Run T η) (flight : Flight T)
    (result : Except Failure Unit) (verdict : Option Failure) :
    run.grounded.conclude job flight result verdict = run.conclude job flight result verdict := by
  cases verdict <;> rfl

/-- **The same follows on journals that tell the same.** -/
theorem alike_conclude {first second : Run T η} {early late : List (Entry T)}
    {flight : Flight T} {stage : Stage T} (calm : Run T η) (received : η)
    (callback : Callback T Unit) (isFirst : first.grounded = calm.recast received early)
    (isSecond : second.grounded = calm.recast received late) (akin : Journal.Akin early late)
    (found : calm.stages[flight.slot.stage]? = some stage)
    (noItem : flight.slot.stage = 0 → ∀ message ∈ stage.outbox, message.item? = none)
    (result : Except Failure Unit) (verdict : Option Failure) :
    Alike (first.conclude job flight result verdict)
      (second.conclude job { flight with callback } result verdict) := by
  -- Nothing that follows looks at the journal, so that both runs are one run recast.
  have agrees : job.Agrees job := ⟨rfl, rfl, rfl, rfl, rfl, rfl, rfl, rfl⟩
  have concluded : ∀ past, (calm.recast received past).conclude job flight result verdict =
      (calm.conclude job flight result verdict).recast received past := by
    intro past
    cases verdict with
    | some failure => exact fail_recast agrees calm received past _
    | none => exact settle_recast agrees calm received past result found noItem
  have twice : second.conclude job { flight with callback } result verdict =
      second.conclude job flight result verdict := by cases verdict <;> rfl
  rw [twice, ← conclude_grounded, ← conclude_grounded job second, isFirst, isSecond, concluded,
    concluded]
  exact Alike.recast _ _ akin

/-! ## (3) Steps that pause -/

section Pausing

variable {flight : Flight T} {stage : Stage T} {scene ending : Callback.Scene T}
  {rest : Callback T Unit} {result : Except Failure Unit} {mid : List (Entry T)}
  {between last : η} {early late : List (T.Response × Except Failure Unit)}
  {verdict : Option Failure}

/-- A callback in flight is so without its pauses as well, and goes through in the next poll. -/
theorem polled_unpaused (polled : run.awake.Polled flight stage (.waiting rest) scene)
    (resumed : Callback.Resumed flight.callback rest ⟨stage, run.memory, run.past⟩ scene result
      ending mid) :
    run.unpaused.awake.Polled flight.unpaused stage (.finished result)
      (ending.onto scene.stage.callerQueue mid) where
  state := polled.state
  outcome := polled.outcome
  isFlight := congrArg (Option.map Flight.unpaused) polled.isFlight
  current := polled.current
  found := polled.found
  polled := resumed.through

/-- **The run when a callback has come to its last items**, whatever the journal says and the handler
remembers. -/
def calm (run : Run T η) (place : Nat) (ending : Callback.Scene T) (accepted : Nat) : Run T η :=
  { run.awake with
    flight := none
    stages := run.stages.set place ending.stage.clearCaller
    memory := ending.memory
    past := []
    responsesDelivered := run.responsesDelivered + accepted }

/-- **Without the pause** the poll goes on past it, and all items are offered together. -/
theorem exists_concluded_at_once (polled : run.awake.Polled flight stage (.waiting rest) scene)
    (resumed : Callback.Resumed flight.callback rest ⟨stage, run.memory, run.past⟩ scene result
      ending mid)
    (offered : job.handler.offer run.received scene.stage.callerQueue = (between, early, none))
    (others : job.handler.offer between ending.stage.callerQueue = (last, late, verdict)) :
    ∃ after : Run T η, run.unpaused.step job.unpaused =
        after.conclude job.unpaused flight.unpaused result verdict ∧
      after.grounded = (run.calm flight.slot.stage ending
        ((early ++ late).countP (·.2.isOk))).recast last
          (((early ++ late).map Entry.ofVerdict).reverse ++ (ending.past ++ mid)) := by
  have twin := polled_unpaused polled resumed
  have state : run.unpaused.state = .delivering := twin.state
  have isFlight : run.unpaused.flight = some flight.unpaused := twin.isFlight
  have offers : job.unpaused.handler.offer run.unpaused.awake.received
      (ending.onto scene.stage.callerQueue mid).stage.callerQueue =
        (last, early ++ late, verdict) := by
    have accepted := congrArg (·.2.2) offered
    have both := Handler.offer_append ending.stage.callerQueue accepted
    rw [offered, others] at both
    rw [resumed.callerQueue]
    exact both
  refine ⟨run.unpaused.awake.afterPoll job.unpaused flight.slot.stage
    (ending.onto scene.stage.callerQueue mid), ?_, ?_⟩
  · have concluded : run.unpaused.awake.pollFlight job.unpaused flight.unpaused = _ :=
      pollFlight_eq_conclude twin.found twin.polled
    rw [step_of_inFlight state isFlight, concluded, offers]
    rfl
  · have cleared := ending.stage.clearCaller_owing scene.stage.callerQueue
    rw [grounded, afterPoll, offers, Callback.Scene.onto, cleared]
    rfl

/-- **With the pause** the rest of the callback goes on, and its items are offered behind the
others. -/
theorem exists_concluded_in_parts (polled : run.awake.Polled flight stage (.waiting rest) scene)
    (resumed : Callback.Resumed flight.callback rest ⟨stage, run.memory, run.past⟩ scene result
      ending mid)
    (offered : job.handler.offer run.received scene.stage.callerQueue = (between, early, none))
    (others : job.handler.offer between ending.stage.callerQueue = (last, late, verdict)) :
    ∃ after : Run T η, (run.step job).unpaused.step job.unpaused =
        after.conclude job.unpaused { flight.unpaused with callback := rest.unpaused } result
          verdict ∧
      after.grounded = (run.calm flight.slot.stage ending
        ((early ++ late).countP (·.2.isOk))).recast last
          ((late.map Entry.ofVerdict).reverse ++
            (ending.past ++ ((early.map Entry.ofVerdict).reverse ++ scene.past))) := by
  let paused : Run T η := { run with
    stages := run.stages.set flight.slot.stage scene.stage.clearCaller
    memory := scene.memory
    received := between
    past := (early.map Entry.ofVerdict).reverse ++ scene.past
    responsesDelivered := run.responsesDelivered + early.countP (·.2.isOk)
    flight := some { flight with callback := rest }
    isWaiting := true }
  have isPaused : run.step job = paused := by
    have state : run.state = .delivering := polled.state
    have isFlight : run.flight = some flight := polled.isFlight
    have accepted := congrArg (·.2.2) offered
    have isOffered : job.handler.offer run.awake.received scene.stage.callerQueue = _ := offered
    rw [step_of_inFlight state isFlight,
      pollFlight_of_waiting polled.found polled.polled accepted, afterPoll, isOffered]
    rfl
  have state : paused.unpaused.state = .delivering := polled.state
  have isFlight : paused.unpaused.flight =
      some { flight.unpaused with callback := rest.unpaused } := rfl
  have found : paused.unpaused.awake.stages[flight.slot.stage]? = some scene.stage.clearCaller :=
    List.getElem?_set_self (List.getElem?_eq_some_iff.mp polled.found).1
  have concluded : paused.unpaused.awake.pollFlight job.unpaused
      { flight.unpaused with callback := rest.unpaused } = _ :=
    pollFlight_eq_conclude found (resumed.again paused.past)
  have offers : job.unpaused.handler.offer paused.unpaused.awake.received
      (ending.onto [] paused.past).stage.callerQueue = (last, late, verdict) := by
    rw [Callback.Scene.onto, Stage.owing_nil]
    exact others
  refine ⟨paused.unpaused.awake.afterPoll job.unpaused flight.slot.stage
    (ending.onto [] paused.past), ?_, ?_⟩
  · rw [isPaused, step_of_inFlight state isFlight, concluded, offers]
    rfl
  · -- The stage is replaced twice, and what is accepted is counted in two parts.
    have stages : paused.stages.set flight.slot.stage ending.stage.clearCaller =
        run.stages.set flight.slot.stage ending.stage.clearCaller := List.set_set _
    have count : paused.responsesDelivered + late.countP (·.2.isOk) =
        run.responsesDelivered + (early ++ late).countP (·.2.isOk) := by
      rw [List.countP_append, ← Nat.add_assoc]
    rw [grounded, afterPoll, offers, Callback.Scene.onto, Stage.owing_nil, calm, ← stages, ← count]
    rfl

/-- **A pause makes no difference to what comes of a callback**, as long as nothing has been refused
so far. -/
theorem alike_of_waiting (sound : Sound job run)
    (polled : run.awake.Polled flight stage (.waiting rest) scene)
    (accepted : (job.handler.offer run.received scene.stage.callerQueue).2.2 = none) :
    Alike (run.unpaused.step job.unpaused) ((run.step job).unpaused.step job.unpaused) := by
  obtain ⟨result, ending, mid, resumed⟩ := Callback.exists_resumed polled.polled
  rcases offered : job.handler.offer run.received scene.stage.callerQueue with
    ⟨between, early, outcome⟩
  rcases others : job.handler.offer between ending.stage.callerQueue with ⟨last, late, verdict⟩
  rw [offered] at accepted
  subst accepted
  obtain ⟨first, isFirst, firstCalm⟩ := exists_concluded_at_once polled resumed offered others
  obtain ⟨second, isSecond, secondCalm⟩ :=
    exists_concluded_in_parts polled resumed offered others
  obtain ⟨index, isPast, areActs⟩ := resumed.paused
  rw [isPast] at secondCalm
  -- Both ways lead to the same calm run, and the journals differ in the pause and the offers only.
  have akin := Journal.akin_of_paused areActs early late mid index
  have found : (run.calm flight.slot.stage ending
      ((early ++ late).countP (·.2.isOk))).stages[flight.slot.stage]? =
        some ending.stage.clearCaller :=
    List.getElem?_set_self (List.getElem?_eq_some_iff.mp polled.found).1
  have noItem := item?_eq_none_of_polled sound.unpaused.awake (polled_unpaused polled resumed)
  rw [isFirst, isSecond]
  exact alike_conclude _ last rest.unpaused firstCalm secondCalm akin found noItem result verdict

/-- **An item that is refused in a poll that pauses** would have been refused without the pause as
well. -/
theorem refused_of_waiting (sound : Sound job run)
    (polled : run.awake.Polled flight stage (.waiting rest) scene) {failure : Failure}
    (refused : (job.handler.offer run.received scene.stage.callerQueue).2.2 = some failure) :
    (run.unpaused.step job.unpaused).turns.map Turn.call = (run.step job).turns.map Turn.call ∧
      (run.unpaused.step job.unpaused).verdicts = (run.step job).verdicts ∧
      (run.unpaused.step job.unpaused).outcome = some (.error (.handler failure)) ∧
      (run.step job).outcome = some (.error (.handler failure)) := by
  obtain ⟨result, ending, mid, resumed⟩ := Callback.exists_resumed polled.polled
  have due : run.awake.due = scene.stage.callerQueue := due_of_polled polled
  have twinDue : run.unpaused.awake.due = scene.stage.callerQueue ++ ending.stage.callerQueue :=
    (due_of_polled (polled_unpaused polled resumed)).trans resumed.callerQueue
  -- The items of the poll come first, and behind the refused one nothing is offered.
  have same : job.unpaused.handler.offer run.unpaused.awake.received run.unpaused.awake.due =
      job.handler.offer run.awake.received run.awake.due := by
    rw [twinDue, due]
    exact Handler.offer_append_of_refused _ refused
  rw [← due] at refused
  obtain ⟨turn, late, earlier, started, stopped, call, -, failed, verdicts⟩ :=
    step_of_refused sound refused
  obtain ⟨twinTurn, twinLate, others, twinStarted, twinStopped, twinCall, -, twinFailed,
    twinVerdicts⟩ := step_of_refused sound.unpaused ((congrArg (·.2.2) same).trans refused)
  obtain ⟨rfl, rfl⟩ := List.cons.inj (started.symm.trans twinStarted)
  refine ⟨?_, ?_, twinFailed, failed⟩
  · rw [turns_eq_concat stopped, turns_eq_concat twinStopped, List.map_append, List.map_append,
      List.map_singleton, List.map_singleton, call, twinCall]
  · rw [twinVerdicts, verdicts]
    exact congrArg (run.verdicts ++ ·) (congrArg (·.2.1) same)

end Pausing

end Run

end Relay
