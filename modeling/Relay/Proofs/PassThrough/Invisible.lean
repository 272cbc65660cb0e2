import Relay.Proofs.Pace
import Relay.Proofs.PassThrough.Forward

/-!
# An inserted stage is invisible

A stage that forwards everything is put between two stages of a pipeline. Nothing tells the two runs
apart but the turns of that stage, and what counts or names places.

* `Run.advance` is the simulation: with each step the twin does what the run does next, or the
  inserted stage has less left to do.
* `Run.invisible_passThrough` says what follows for whole runs.
-/

namespace Relay.Run

variable {T : Traffic} {η : Type} {k : Nat} {job : Job T η} {name : String} {run twin : Run T η}

/-! ## (1) Steps -/

/-- Without a limit no run is stopped. -/
theorem limitReached_of_unlimited (unlimited : job.config.maxSteps = none) (run : Run T η) :
    run.limitReached job = none := by
  rw [limitReached, unlimited]
  rfl

/-- **The choice of a message**: both choose the same, or the inserted stage comes first. -/
theorem advance_running (within : k < job.pipeline.size) (unlimited : job.config.maxSteps = none)
    (sound : Sound job run) (twinSound : Sound (job.withPass k name) twin)
    (abreast : Abreast job k run twin) (state : run.state = .running) :
    (Stance job k name run (twin.step (job.withPass k name)) ∧
        lag k (twin.step (job.withPass k name)) < lag k twin) ∨
      Stance job k name (run.step job) (twin.step (job.withPass k name)) := by
  have twinState : twin.state = .running := abreast.state.trans state
  obtain ⟨outcome, flight, current⟩ := sound.atRest state (.inr rfl)
  obtain ⟨twinOutcome, twinFlight, -⟩ := twinSound.atRest twinState (.inr rfl)
  have awake := abreast.awake
  have along := awake.toAlongside
  cases eop : run.eopReached with
  | true =>
    have isOut : run.awake.eopReached = true := eop
    have twinIsOut : twin.awake.eopReached = true := along.eop.trans isOut
    rw [step_of_running state, step_of_running twinState, choose_of_eop isOut,
      choose_of_eop twinIsOut]
    exact .inr (.abreast (abreast_succeed within along sound.awake.toWired
      twinSound.awake.toWired flight twinFlight awake.current))
  | false =>
    have notOut : run.awake.eopReached = false := eop
    have twinNotOut : twin.awake.eopReached = false := along.eop.trans notOut
    have free := limitReached_of_unlimited unlimited run.awake
    have twinFree : twin.awake.limitReached (job.withPass k name) = none :=
      limitReached_of_unlimited unlimited twin.awake
    -- Either nothing waits in either run, or the twin is busy at the inserted stage, or both find
    -- the same message.
    rcases next?_alongside within abreast.toAlongside sound.toWired twinSound.toWired with
      ⟨twinNext, next⟩ | ⟨kind, twinNext⟩ | ⟨slot, twinNext, next⟩
    · rw [step_of_running state, step_of_running twinState, next, twinNext, choose_none notOut,
        choose_none twinNotOut]
      refine .inr (.abreast (abreast_fail along awake.current
        (.starvation run.awake.steps run.awake.stages.length) ?_))
      rw [RunError.withPass, ← along.steps_eq]
      exact congrArg _ (length_alongside within sound.awake.toWired twinSound.awake.toWired)
    · exact .inl (advance_choose abreast.toAlongside state twinState twinFlight twinNotOut twinNext
        (limitReached_of_unlimited unlimited twin))
    · rw [step_of_running state, step_of_running twinState, next, twinNext,
        choose_some notOut free, choose_some twinNotOut twinFree]
      exact .inr (.abreast (abreast_choose along slot flight twinFlight outcome twinOutcome))

/-- **Both start the same callback**, or poll it. -/
theorem abreast_delivering (blind : ∀ processor ∈ job.pipeline.processors, processor.IsBlind)
    (pos : 0 < k) (within : k < job.pipeline.size) (sound : Sound job run)
    (twinSound : Sound (job.withPass k name) twin) (abreast : Abreast job k run twin)
    (state : run.state = .delivering) :
    Abreast job k (run.step job) (twin.step (job.withPass k name)) := by
  have twinState : twin.state = .delivering := abreast.state.trans state
  have awake := abreast.awake
  cases isFlight : run.flight with
  | none =>
    obtain ⟨slot, current, ready, outcome⟩ := sound.exists_chosen state isFlight
    have twinFlight := abreast.idle isFlight
    obtain ⟨twinSlot, twinCurrent, twinReady, twinOutcome⟩ :=
      twinSound.exists_chosen twinState twinFlight
    obtain rfl : twinSlot = slot.shift k := by
      have moved := abreast.current
      rw [current, twinCurrent] at moved
      exact Option.some.inj moved
    rw [step_of_chosen state isFlight current, step_of_chosen twinState twinFlight twinCurrent]
    exact abreast_start blind awake.toAlongside sound.awake twinSound.awake.toWired state twinState
      outcome twinOutcome isFlight ready twinReady
  | some flight =>
    obtain ⟨-, outcome, -⟩ := sound.inFlight isFlight
    obtain ⟨twinFlight, isTwinFlight, alike⟩ := awake.flight flight isFlight
    rw [step_of_inFlight state isFlight, step_of_inFlight twinState isTwinFlight]
    exact abreast_poll pos within sound.awake twinSound.awake awake isFlight isTwinFlight alike
      outcome

/-- **Runs that are abreast** both take the same step, unless the inserted stage comes first. -/
theorem advance_abreast (blind : ∀ processor ∈ job.pipeline.processors, processor.IsBlind)
    (pos : 0 < k) (within : k < job.pipeline.size) (unlimited : job.config.maxSteps = none)
    (sound : Sound job run) (twinSound : Sound (job.withPass k name) twin)
    (abreast : Abreast job k run twin) :
    (Stance job k name run (twin.step (job.withPass k name)) ∧
        lag k (twin.step (job.withPass k name)) < lag k twin) ∨
      Stance job k name (run.step job) (twin.step (job.withPass k name)) := by
  have awake := abreast.awake
  cases outcome : run.outcome with
  | some result =>
    -- Once both have come to their end, both stay there.
    have twinOutcome := abreast.outcome
    rw [outcome, Option.map_some] at twinOutcome
    rw [step_of_finished sound outcome, step_of_finished twinSound twinOutcome]
    exact .inr (.abreast awake)
  | none =>
    cases sound.phase with
    | atRest state _ flight current =>
      rcases state with seeded | running
      · have twinSeeded : twin.state = .seeded := abreast.state.trans seeded
        obtain ⟨twinOutcome, twinFlight, -⟩ := twinSound.atRest twinSeeded (.inl rfl)
        rw [step_of_seeded seeded, step_of_seeded twinSeeded]
        exact .inr (.abreast (abreast_announce awake.toAlongside awake.current flight twinFlight
          outcome twinOutcome))
      · exact advance_running within unlimited sound twinSound abreast running
    | chosen _ state =>
      exact .inr (.abreast (abreast_delivering blind pos within sound twinSound abreast state))
    | inFlight _ state =>
      exact .inr (.abreast (abreast_delivering blind pos within sound twinSound abreast state))
    | succeeded _ _ finished => cases outcome.symm.trans finished
    | failed _ _ finished => cases outcome.symm.trans finished

/-- **The simulation.** With each step the twin does what the run does next, or the inserted stage
has less left to do. -/
theorem advance (blind : ∀ processor ∈ job.pipeline.processors, processor.IsBlind) (pos : 0 < k)
    (within : k < job.pipeline.size) (unlimited : job.config.maxSteps = none)
    (paired : Paired job k name run twin) :
    (Paired job k name run (twin.step (job.withPass k name)) ∧
        lag k (twin.step (job.withPass k name)) < lag k twin) ∨
      Paired job k name (run.step job) (twin.step (job.withPass k name)) := by
  obtain ⟨sound, twinSound, stance⟩ := paired
  have twinNext := sound_step twinSound
  have alone : ∀ {next : Run T η}, Sound (job.withPass k name) next →
      Stance job k name run next ∧ lag k next < lag k twin →
        Paired job k name run next ∧ lag k next < lag k twin :=
    fun nextSound moved => ⟨⟨sound, nextSound, moved.1⟩, moved.2⟩
  cases stance with
  | abreast abreast =>
    rcases advance_abreast blind pos within unlimited sound twinSound abreast with moved | together
    · exact .inl (alone twinNext moved)
    · exact .inr ⟨sound_step sound, twinNext, together⟩
  | chosen kind along state twinState flight current =>
    exact .inl (alone twinNext
      (advance_start within along twinSound state twinState flight current))
  | forwarding message turn earlier along state twinState flight turns called =>
    exact .inl (alone twinNext
      (advance_forward pos within along sound twinSound state flight turns called))

/-- **Runs begin paired.** -/
theorem paired_seed (pos : 0 < k) (within : k < job.pipeline.size) (name : String) (received : η)
    (memory : T.Memory) :
    Paired job k name (seed job received memory) (seed (job.withPass k name) received memory) where
  sound := sound_seed job received memory
  twinSound := sound_seed (job.withPass k name) received memory
  stance := .abreast (abreast_of_idle (alongside_seed pos within name received memory) rfl rfl rfl
    rfl rfl rfl)

/-! ## (2) What cannot be told apart -/

/-- **A state of a run and one of its twin** that nothing tells apart but the turns of the inserted
stage, and what counts or names places. -/
structure Mirrors (k : Nat) (run twin : Run T η) : Prop where
  /-- The same callbacks have been called with the same messages, and have done the same. -/
  turns : List.Forall₂ (Turn.Mirrored k) run.turns (Turn.others k twin.turns)
  /-- The inserted stage has done nothing but forward its messages. -/
  forwards : ∀ turn ∈ twin.turns, turn.call.stage = k → turn.IsForward
  /-- The stages hold the same data. -/
  stages : ∀ {index stage}, run.stages[index]? = some stage →
    ∃ other, twin.stages[place k index]? = some other ∧ stage.Alike other
  /-- A callback that is in flight is in flight in both. -/
  flight : ∀ flight, run.flight = some flight → ∃ other, twin.flight = some other ∧
    other.slot = flight.slot.shift k ∧ other.processor = flight.processor
  memory : twin.memory = run.memory
  /-- The handler has been offered the same items, and has accepted the same. -/
  verdicts : twin.verdicts = run.verdicts
  received : twin.received = run.received
  /-- The twin has taken one more step for each message forwarded, but for one that may be on its
  way. -/
  steps : ∃ underWay, underWay ≤ 1 ∧ twin.steps + underWay =
    run.steps + (twin.forwarded k .request + twin.forwarded k .response)
  /-- Both have ended alike, if they have. -/
  outcome : twin.outcome = run.outcome.map
    (outcomeWithPass k (twin.forwarded k .request) (twin.forwarded k .response))

/-- Runs alongside each other cannot be told apart, whatever they are about to do. -/
theorem Alongside.mirrors {carried : List (Message T)} (along : Alongside job k carried run twin)
    (few : carried.length ≤ 1)
    (flight : ∀ flight, run.flight = some flight → ∃ other, twin.flight = some other ∧
      other.slot = flight.slot.shift k ∧ other.processor = flight.processor)
    (outcome : twin.outcome = run.outcome.map
      (outcomeWithPass k (twin.forwarded k .request) (twin.forwarded k .response))) :
    Mirrors k run twin where
  turns := by
    have inOrder := List.forall₂_reverse_iff.mpr along.turns
    rw [Run.turns, Run.turns, Turn.others, List.filter_reverse]
    exact inOrder
  forwards turn member := along.forwards turn (List.mem_reverse.mp member)
  stages := along.stages
  flight := flight
  memory := along.memory
  verdicts := along.verdicts
  received := along.received
  steps := ⟨carried.length, few, along.steps⟩
  outcome := outcome

/-- **Paired runs cannot be told apart.** -/
theorem Paired.mirrors (paired : Paired job k name run twin) : Mirrors k run twin := by
  obtain ⟨sound, twinSound, stance⟩ := paired
  -- While the inserted stage is at work, the run waits between two callbacks.
  have between : run.state = .running → twin.outcome = none →
      (∀ flight, run.flight = some flight → ∃ other, twin.flight = some other ∧
        other.slot = flight.slot.shift k ∧ other.processor = flight.processor) ∧
      twin.outcome = run.outcome.map
        (outcomeWithPass k (twin.forwarded k .request) (twin.forwarded k .response)) := by
    intro state twinOutcome
    obtain ⟨outcome, flight, -⟩ := sound.atRest state (.inr rfl)
    constructor
    · intro other isFlight
      cases flight.symm.trans isFlight
    · rw [outcome, twinOutcome]
      rfl
  cases stance with
  | abreast abreast =>
    refine abreast.toAlongside.mirrors (Nat.zero_le 1) (fun flight isFlight => ?_) abreast.outcome
    obtain ⟨other, isOther, alike⟩ := abreast.flight flight isFlight
    exact ⟨other, isOther, alike.slot, alike.processor⟩
  | chosen kind along state twinState flight current =>
    obtain ⟨_, -, -, twinOutcome⟩ := twinSound.exists_chosen twinState flight
    obtain ⟨flights, outcomes⟩ := between state twinOutcome
    exact along.mirrors (Nat.zero_le 1) flights outcomes
  | forwarding message turn earlier along state twinState flight turns called =>
    obtain ⟨-, twinOutcome, -⟩ := twinSound.inFlight flight
    obtain ⟨flights, outcomes⟩ := between state twinOutcome
    exact along.mirrors (Nat.le_refl 1) flights outcomes

/-! ## (3) Whole runs -/

/-- **The states that a run comes to**, one after the other. -/
def states (job : Job T η) (received : η) (memory : T.Memory) (n : Nat) : Run T η :=
  (seed job received memory).after job n

/-- **An inserted stage that forwards everything is invisible.** Put between two stages of a
pipeline whose processors are blind, it lets each state of a run last for a while, in which the twin
cannot be told from the run: the same callbacks have been called in the same order with the same
messages and stage data, the handler has been offered the same items, and the inserted stage has
only forwarded its messages. Without a limit on steps, both run for ever or both come to the same
end, told by the place, the steps and the number of stages of the longer pipeline. -/
theorem invisible_passThrough (blind : ∀ processor ∈ job.pipeline.processors, processor.IsBlind)
    (pos : 0 < k) (within : k < job.pipeline.size) (unlimited : job.config.maxSteps = none)
    (name : String) (received : η) (memory : T.Memory) :
    (∃ pace : Nat → Nat, pace 0 = 0 ∧ StrictMono pace ∧
      ∀ m n, pace m ≤ n → n < pace (m + 1) →
        Mirrors k (states job received memory m) (states (job.withPass k name) received memory n)) ∧
    ((∀ m, (states job received memory m).outcome = none) ∧
        (∀ n, (states (job.withPass k name) received memory n).outcome = none) ∨
      ∃ m n result, (states job received memory m).outcome = some result ∧
        (states (job.withPass k name) received memory n).outcome = some (outcomeWithPass k
          ((states (job.withPass k name) received memory n).forwarded k .request)
          ((states (job.withPass k name) received memory n).forwarded k .response) result)) := by
  obtain ⟨pace, start, rising, held⟩ := exists_pace (a := states job received memory)
    (b := states (job.withPass k name) received memory) (R := Paired job k name)
    (paired_seed pos within name received memory)
    fun _ _ paired => advance blind pos within unlimited paired
  have mirrors : ∀ m n, pace m ≤ n → n < pace (m + 1) → Mirrors k (states job received memory m)
      (states (job.withPass k name) received memory n) :=
    fun m n from_m before => (held m n from_m before).mirrors
  refine ⟨⟨pace, start, rising, mirrors⟩, ?_⟩
  -- An outcome of the run is seen in the twin from the while of that state on; and every state of
  -- the twin belongs to the while of some state of the run.
  by_cases ends : ∃ m, (states job received memory m).outcome ≠ none
  · obtain ⟨m, ended⟩ := ends
    obtain ⟨result, outcome⟩ := Option.ne_none_iff_exists'.mp ended
    have later : pace m < pace (m + 1) := rising (Nat.lt_succ_self m)
    have twinOutcome := (mirrors m (pace m) (Nat.le_refl _) later).outcome
    rw [outcome] at twinOutcome
    exact .inr ⟨m, pace m, result, outcome, twinOutcome⟩
  · have forever : ∀ m, (states job received memory m).outcome = none := by
      intro m
      by_contra ended
      exact ends ⟨m, ended⟩
    refine .inl ⟨forever, fun n => ?_⟩
    obtain ⟨m, from_m, before⟩ := exists_while start rising n
    rw [(mirrors m n from_m before).outcome, forever m]
    rfl

/-- A pipeline for numbers, whose stages keep nothing. -/
@[reducible] def numbers : Traffic where
  Request := Nat
  Response := Nat
  Kind := Empty
  Value := nofun

/-- **A job for two stages**: the first one forwards everything, and the last one answers each
request with the same two items. -/
def exchange : Job numbers (List Nat) where
  pipeline :=
    { name := "exchange"
      processors := [.passThrough "front", .terminal (fun item => .nat item) "back" [1, 2]]
      metadata := {}
      name_not_blank := by decide
      processors_ne_nil := by simp }
  request := (0 : Nat)
  handler := .collecting
  runId := .nil
  startedAt := ⟨⟨2024, 1, 1⟩, 0, 0⟩
  durationMs := 0

/-- Nothing tells that a third stage has been put between the two. -/
theorem exchange_invisible :
    (∀ processor ∈ exchange.pipeline.processors, processor.IsBlind) ∧ 1 < exchange.pipeline.size ∧
      exchange.config.maxSteps = none ∧
      ∃ pace : Nat → Nat, pace 0 = 0 ∧ StrictMono pace ∧
        ∀ m n, pace m ≤ n → n < pace (m + 1) →
          Mirrors 1 (states exchange [] () m) (states (exchange.withPass 1 "middle") [] () n) := by
  have blind : ∀ processor ∈ exchange.pipeline.processors, processor.IsBlind := by
    intro processor member
    rcases List.mem_pair.mp member with rfl | rfl
    · exact Processor.isBlind_passThrough "front"
    · exact Processor.isBlind_terminal _ "back" _
  have within : 1 < exchange.pipeline.size := by decide
  exact ⟨blind, within, rfl,
    (invisible_passThrough blind Nat.zero_lt_one within rfl "middle" [] ()).1⟩

end Relay.Run
