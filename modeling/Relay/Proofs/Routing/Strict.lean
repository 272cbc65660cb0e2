import Relay.Proofs.Routing.Leftovers

/-!
# Routing stays inside the pipeline

A step looks up a stage and its processor by number, and routing puts messages into the queues of
the stages before and after. Nothing is done about a place that is not there, nor does routing
refuse to hand an item to the caller. The strict step does: it gives up in either case. It
turns out that it never has to.

* `Run.step?` is the strict step; `Run.step_eq_of_step?` says that it is a step wherever it does not
  give up.
* `Run.exists_step?` says that it does not give up on a sound run.
* `Run.routing_stays_inside` puts this together with what lies at the stages.
-/

namespace Relay

variable {T : Traffic} {η : Type}

namespace Run

variable {job : Job T η} {run next : Run T η} {sender : Nat}

/-! ## (1) The strict step -/

/-- A change of a stage that has to be there. -/
def modifyStage? (run : Run T η) (index : Nat) (change : Stage T → Stage T) : Option (Run T η) :=
  if index < run.stages.length then some (run.modifyStage index change) else none

/-- **The strict way of one message**: the stage that it goes to has to be there, and no item may
have come out of the first stage. -/
def routeOne? (sender : Nat) (run : Run T η) : Outgoing T → Option (Run T η)
  | .request request =>
    (run.modifyStage? (sender + 1) (·.enqueueRequest request)).map fun later =>
      { later with ready := run.ready.mark ⟨sender + 1, .request⟩ }
  | .response reply =>
    if 0 < sender then
      (run.modifyStage? (sender - 1) (·.enqueueResponse reply)).map fun later =>
        { later with ready := run.ready.mark ⟨sender - 1, .response⟩ }
    else if reply.isEop then some { run.record (.eopReached run.steps) with eopReached := true }
    else none

/-- The strict ways of several messages, in order. -/
def routeAll? (sender : Nat) : Run T η → List (Outgoing T) → Option (Run T η)
  | run, [] => some run
  | run, message :: rest => (run.routeOne? sender message).bind (routeAll? sender · rest)

/-- **Strict routing**: the sender has to be there as well. -/
def route? (run : Run T η) (sender : Nat) : Option (Run T η) :=
  run.stages[sender]?.bind fun stage =>
    ((run.modifyStage sender (·.clearOutbox)).routeAll? sender stage.outbox).map
      (·.become .running)

/-- **The strict start of a callback**: stage and processor have to be there. -/
def start? (job : Job T η) (run : Run T η) (slot : Slot) : Option (Run T η) :=
  match run.stages[slot.stage]?, job.pipeline.processor? slot.stage with
  | some stage, some _ =>
    match stage.pop? slot.kind with
    | none => { run with current := none, ready := run.ready.clear slot }.route? slot.stage
    | some _ => some (run.start job slot)
  | _, _ => none

/-- **The strict end of a callback**: what has been sent is routed strictly. -/
def settle? (job : Job T η) (run : Run T η) (flight : Flight T) (result : Except Failure Unit) :
    Option (Run T η) :=
  run.stages[flight.slot.stage]?.bind fun stage =>
    match stage.violation, result with
    | false, .ok () => (run.settled flight result).route? flight.slot.stage
    | _, _ => some (run.settle job flight result)

/-- **A strict poll** of the callback in flight, whose stage has to be there. -/
def pollFlight? (job : Job T η) (run : Run T η) (flight : Flight T) : Option (Run T η) :=
  run.stages[flight.slot.stage]?.bind fun stage =>
    let polled := flight.callback.poll ⟨stage, run.memory, run.past⟩
    match (job.handler.offer run.received polled.2.stage.callerQueue).2.2, polled.1 with
    | none, .finished result =>
      (run.afterPoll job flight.slot.stage polled.2).settle? job flight result
    | _, _ => some (run.pollFlight job flight)

/-- **The strict step.** -/
def step? (job : Job T η) (run : Run T η) : Option (Run T η) :=
  match run.state, run.flight, run.current with
  | .delivering, some flight, _ => run.awake.pollFlight? job flight
  | .delivering, none, some slot => run.awake.start? job slot
  | _, _, _ => some (run.step job)

/-! ## (2) Where it does not give up -/

/-- A change of a stage that is there is a change. -/
theorem eq_of_modifyStage? {index : Nat} {change : Stage T → Stage T}
    (strict : run.modifyStage? index change = some next) :
    next = run.modifyStage index change := by
  unfold modifyStage? at strict
  split at strict
  · exact (Option.some.inj strict).symm
  · cases strict

/-- The strict way of a message is its way. -/
theorem routeOne_of_routeOne? (job : Job T η) {message : Outgoing T}
    (strict : run.routeOne? sender message = some next) :
    run.routeOne job sender message = (.ok (), next) := by
  cases message with
  | request request =>
    obtain ⟨later, modified, rfl⟩ := Option.map_eq_some_iff.mp strict
    obtain rfl := eq_of_modifyStage? modified
    rfl
  | response reply =>
    by_cases notFirst : 0 < sender
    · rw [routeOne?, if_pos notFirst] at strict
      obtain ⟨later, modified, rfl⟩ := Option.map_eq_some_iff.mp strict
      obtain rfl := eq_of_modifyStage? modified
      simp only [routeOne, if_pos notFirst, modifyStage]
    · rw [routeOne?, if_neg notFirst] at strict
      simp only [routeOne, if_neg notFirst]
      cases reply with
      | item payload => cases strict
      | eop =>
        obtain rfl := Option.some.inj strict
        rfl

/-- The strict ways of several messages are their ways. -/
theorem routeAll_of_routeAll? (job : Job T η) {sent : List (Outgoing T)}
    (strict : run.routeAll? sender sent = some next) :
    run.routeAll job sender sent = (.ok (), next) := by
  induction sent generalizing run with
  | nil =>
    obtain rfl := Option.some.inj strict
    rfl
  | cons message rest ih =>
    obtain ⟨later, one, others⟩ := Option.bind_eq_some_iff.mp strict
    rw [routeAll, routeOne_of_routeOne? job one]
    exact ih others

/-- Strict routing is routing. -/
theorem route_of_route? (job : Job T η) (strict : run.route? sender = some next) :
    run.route job sender = next := by
  obtain ⟨stage, found, rest⟩ := Option.bind_eq_some_iff.mp strict
  obtain ⟨later, all, rfl⟩ := Option.map_eq_some_iff.mp rest
  rw [route, found]
  simp only [Option.map_some, Option.getD_some, routeAll_of_routeAll? job all]

/-- A strict start is a start. -/
theorem start_of_start? {slot : Slot} (strict : run.start? job slot = some next) :
    run.start job slot = next := by
  unfold start? at strict
  split at strict
  next stage processor found hasProcessor =>
    split at strict
    next empty =>
      have routed := route_of_route? job strict
      simp only [start, found, hasProcessor, empty]
      exact routed
    next => exact Option.some.inj strict
  next => cases strict

/-- The strict end of a callback is its end. -/
theorem settle_of_settle? {flight : Flight T} {result : Except Failure Unit}
    (strict : run.settle? job flight result = some next) :
    run.settle job flight result = next := by
  obtain ⟨stage, found, rest⟩ := Option.bind_eq_some_iff.mp strict
  split at rest
  next violation =>
    rw [settle_of_ok found violation]
    exact route_of_route? job rest
  next => exact Option.some.inj rest

/-- A strict poll is a poll. -/
theorem pollFlight_of_pollFlight? {flight : Flight T}
    (strict : run.pollFlight? job flight = some next) : run.pollFlight job flight = next := by
  obtain ⟨stage, found, rest⟩ := Option.bind_eq_some_iff.mp strict
  simp only at rest
  split at rest
  next accepted finished =>
    have polled : flight.callback.poll ⟨stage, run.memory, run.past⟩ = (.finished _, _) :=
      Prod.ext finished rfl
    rw [pollFlight_of_finished found polled accepted]
    exact settle_of_settle? rest
  next => exact Option.some.inj rest

/-- **The strict step is a step** wherever it does not give up. -/
theorem step_eq_of_step? (strict : run.step? job = some next) : run.step job = next := by
  unfold step? at strict
  split at strict
  next state isFlight =>
    rw [step_of_inFlight state isFlight]
    exact pollFlight_of_pollFlight? strict
  next state idle current =>
    rw [step_of_chosen state idle current]
    exact start_of_start? strict
  next => exact Option.some.inj strict

/-! ## (3) Why it never does -/

/-- Routing a message leaves as many stages as before. -/
theorem length_of_routeOne? {message : Outgoing T}
    (strict : run.routeOne? sender message = some next) :
    next.stages.length = run.stages.length := by
  have modified {index : Nat} {change : Stage T → Stage T} (later : Run T η)
      (isThere : run.modifyStage? index change = some later) :
      later.stages.length = run.stages.length := by
    rw [eq_of_modifyStage? isThere]
    exact List.length_modify _ _ _
  cases message with
  | request request =>
    obtain ⟨later, isThere, rfl⟩ := Option.map_eq_some_iff.mp strict
    exact modified later isThere
  | response reply =>
    by_cases notFirst : 0 < sender
    · rw [routeOne?, if_pos notFirst] at strict
      obtain ⟨later, isThere, rfl⟩ := Option.map_eq_some_iff.mp strict
      exact modified later isThere
    · rw [routeOne?, if_neg notFirst] at strict
      cases reply with
      | item payload => cases strict
      | eop =>
        obtain rfl := Option.some.inj strict
        rfl

/-- **A message can be routed**, unless it is a request of the last stage or an item of the
first. -/
theorem exists_routeOne? {message : Outgoing T} (within : sender < run.stages.length)
    (noRequest : sender + 1 = run.stages.length → message.request? = none)
    (noItem : sender = 0 → message.item? = none) :
    ∃ later, run.routeOne? sender message = some later := by
  cases message with
  | request request =>
    have notLast : sender + 1 ≠ run.stages.length := by
      intro last
      simpa [Outgoing.request?] using noRequest last
    have nextThere : sender + 1 < run.stages.length := by omega
    rw [routeOne?, modifyStage?, if_pos nextThere]
    exact ⟨_, rfl⟩
  | response reply =>
    by_cases notFirst : 0 < sender
    · have previousThere : sender - 1 < run.stages.length := by omega
      rw [routeOne?, if_pos notFirst, modifyStage?, if_pos previousThere]
      exact ⟨_, rfl⟩
    · rw [routeOne?, if_neg notFirst]
      cases reply with
      | item payload =>
        simp [Outgoing.item?, Reply.item?, Nat.eq_zero_of_not_pos notFirst] at noItem
      | eop => exact ⟨_, rfl⟩

/-- **All messages of a stage can be routed** under the same conditions. -/
theorem exists_routeAll? {sent : List (Outgoing T)} (within : sender < run.stages.length)
    (noRequests : sender + 1 = run.stages.length → ∀ message ∈ sent, message.request? = none)
    (noItems : sender = 0 → ∀ message ∈ sent, message.item? = none) :
    ∃ later, run.routeAll? sender sent = some later := by
  induction sent generalizing run with
  | nil => exact ⟨run, rfl⟩
  | cons message rest ih =>
    obtain ⟨later, one⟩ := exists_routeOne? within
      (fun last => noRequests last message List.mem_cons_self)
      fun first => noItems first message List.mem_cons_self
    have length := length_of_routeOne? one
    obtain ⟨final, others⟩ := ih (length ▸ within)
      (fun last other member =>
        noRequests (length ▸ last) other (List.mem_cons_of_mem _ member))
      fun first other member => noItems first other (List.mem_cons_of_mem _ member)
    exact ⟨final, Option.bind_eq_some_iff.mpr ⟨later, one, others⟩⟩

/-- **What a stage has sent can be routed** under the same conditions. -/
theorem exists_route? {stage : Stage T} (found : run.stages[sender]? = some stage)
    (noRequests : sender + 1 = run.stages.length →
      ∀ message ∈ stage.outbox, message.request? = none)
    (noItems : sender = 0 → ∀ message ∈ stage.outbox, message.item? = none) :
    ∃ later, run.route? sender = some later := by
  have sameLength : (run.modifyStage sender (·.clearOutbox)).stages.length = run.stages.length :=
    List.length_modify _ _ _
  have within := (List.getElem?_eq_some_iff.mp found).1
  obtain ⟨later, all⟩ := exists_routeAll? (sameLength.symm ▸ within)
    (fun last => noRequests (sameLength ▸ last)) noItems
  rw [route?, found, Option.bind_some, all]
  exact ⟨_, rfl⟩

/-- **What a callback has sent by its end can be routed.** -/
theorem exists_settle? (sound : Sound job run) {flight : Flight T} {stage : Stage T}
    {status : Callback.Status T Unit} {scene : Callback.Scene T}
    (polled : run.Polled flight stage status scene) (result : Except Failure Unit) :
    ∃ later, (run.afterPoll job flight.slot.stage scene).settle? job flight result =
      some later := by
  obtain ⟨turn, earlier, acts, engaged, acted⟩ := exists_acted sound polled
  have wired := wired_afterPoll sound.toWired polled.found acted
  have still := engaged_afterPoll job engaged acted
  rw [settle?, getElem?_afterPoll job scene polled.found, Option.bind_some]
  split
  next =>
    refine exists_route? (getElem?_settled job scene (.ok ()) polled.found) ?requests ?items
    case requests =>
      intro last message lies
      refine still.holds.request?_eq_none ?_ lies
      rw [wired.isLast_eq still.found, ← wired.length_eq]
      exact beq_iff_eq.mpr last
    case items =>
      intro first message lies
      refine still.holds.item?_eq_none ?_ lies
      rw [wired.feedsCaller_eq still.found]
      exact beq_iff_eq.mpr first
  next => exact ⟨_, rfl⟩

/-- **The strict step never gives up** on a sound run. -/
theorem exists_step? (sound : Sound job run) : ∃ later, run.step? job = some later := by
  cases sound.phase with
  | atRest state _ idle current =>
    rcases state with seeded | running
    · simp only [step?, seeded]
      exact ⟨_, rfl⟩
    · simp only [step?, running]
      exact ⟨_, rfl⟩
  | chosen slot state _ idle current ready =>
    obtain ⟨stage, processor, message, rest, found, hasProcessor, popped⟩ :=
      sound.exists_popped ready
    have foundAwake : run.awake.stages[slot.stage]? = some stage := found
    simp only [step?, state, idle, current, start?, foundAwake, hasProcessor, popped]
    exact ⟨_, rfl⟩
  | inFlight flight state outcome isFlight current =>
    obtain ⟨stage, status, scene, polled⟩ := sound.exists_polled isFlight
    simp only [step?, state, isFlight, pollFlight?, polled.found, Option.bind_some, polled.polled]
    split
    next => exact exists_settle? sound.awake polled _
    next => exact ⟨_, rfl⟩
  | succeeded _ state =>
    simp only [step?, state]
    exact ⟨_, rfl⟩
  | failed _ state =>
    simp only [step?, state]
    exact ⟨_, rfl⟩

/-! ## (4) What it comes to -/

/-- **The loop heads of a run**: no callback is under way, nor has one made the run fail. -/
def IsLoopHead (run : Run T η) : Prop := run.flight = none ∧ run.state ≠ .failed

/-- **At a loop head nothing lies anywhere.** -/
theorem clear_of_isLoopHead (tidy : Tidy job run) (atHead : run.IsLoopHead) {index : Nat}
    {stage : Stage T} (found : run.stages[index]? = some stage) :
    stage.outbox = [] ∧ stage.violation = false ∧ stage.callerQueue = [] := by
  obtain ⟨idle, notFailed⟩ := atHead
  have notBusy (place : Nat) : ¬ run.IsBusyAt place := by
    rintro ⟨flight, isFlight, -⟩
    cases idle.symm.trans isFlight
  have notLeft : ¬ (stage.outbox ≠ [] ∨ stage.violation = true) := by
    intro lies
    rcases tidy.owner found lies with busy | ⟨failed, -⟩
    · exact notBusy index busy
    · exact notFailed failed
  obtain ⟨outbox, violation⟩ := not_or.mp notLeft
  refine ⟨not_not.mp outbox, Bool.eq_false_iff.mpr violation, ?_⟩
  by_contra waits
  exact notBusy 0 (tidy.caller found waits).2

/-- **Routing stays inside the pipeline.** In whatever state a run is, every moment of it is tidy,
the middle of a poll included; nothing waits for the caller between two polls, and nothing lies at
any stage when no callback is under way. So whatever the next step looks up is there, and it hands
no item to the caller in routing: the strict step makes the same step. -/
theorem routing_stays_inside (job : Job T η) (received : η) (memory : T.Memory) (n : Nat) :
    let run := (seed job received memory).after job n
    (∀ moment, run.Moment moment → Tidy job moment) ∧
      (∀ stage ∈ run.stages, stage.callerQueue = []) ∧
      (run.IsLoopHead → ∀ stage ∈ run.stages,
        stage.outbox = [] ∧ stage.violation = false ∧ stage.callerQueue = []) ∧
      run.step? job = some (run.step job) := by
  intro run
  have sound := sound_after job received memory n
  refine ⟨fun moment isMoment => tidy_of_moment job received memory n isMoment, ?caller, ?heads,
    ?strict⟩
  case caller =>
    intro stage member
    obtain ⟨index, found⟩ := List.mem_iff_getElem?.mp member
    exact sound.callerQueue_eq_nil found
  case heads =>
    intro atHead stage member
    obtain ⟨index, found⟩ := List.mem_iff_getElem?.mp member
    exact clear_of_isLoopHead (tidy_after job received memory n) atHead found
  case strict =>
    obtain ⟨later, strict⟩ := exists_step? sound
    rw [strict, step_eq_of_step? strict]

end Run

end Relay
