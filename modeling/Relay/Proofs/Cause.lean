import Relay.Proofs.Limit
import Relay.Proofs.Schedule
import Relay.Proofs.Success

/-!
# Why runs fail

A run that fails does so for one cause, which its journal tells. The latest callback is looked at
first: if the handler has refused an item of it, that is the cause, whatever else the callback has
done; otherwise an attempt to send past the last stage, however the callback has ended; otherwise
its own failure. If the latest callback has ended well, or none has been called, the end of the pipe
is not out, and the run fails because nothing waits or because the limit is reached.

* `Run.Cause` lists the causes, and `Run.Cause.unique` says that they exclude each other.
* `Run.cause_of_move` finds the cause when a move fails a run.
* `Run.fails_for_one_cause` is the result.
-/

namespace Relay

variable {T : Traffic} {η : Type}

namespace Run

variable {job : Job T η} {run next : Run T η} {error other : RunError}

/-! ## (1) Causes -/

/-- **A run with nothing to blame on a callback**: the handler has accepted all items, every
callback has ended well, and none has ended the pipe. -/
structure Blameless (run : Run T η) : Prop where
  accepted : ∀ verdict ∈ run.verdicts, verdict.2 = .ok ()
  clean : ∀ turn ∈ run.turns, turn.isClean = true
  unended : ∀ turn ∈ run.turns, ¬ turn.EndsPipe

/-- **The causes for which runs fail**, each with the error that tells it. -/
inductive Cause (job : Job T η) (run : Run T η) : RunError → Prop where
  /-- The handler has refused an item that the latest callback, one of the first stage, has sent. -/
  | refusal (turn : Turn T) (item : T.Response) (failure : Failure)
      (latest : run.turns.getLast? = some turn) (first : turn.call.stage = 0)
      (sent : .response (.item item) ∈ turn.sent)
      (refused : run.verdicts.getLast? = some (item, .error failure)) :
      Cause job run (.handler failure)
  /-- The latest callback, one of the last stage, has tried to send a request. -/
  | overreach (turn : Turn T) (processor : Processor T)
      (accepted : ∀ verdict ∈ run.verdicts, verdict.2 = .ok ())
      (latest : run.turns.getLast? = some turn) (last : turn.call.stage = job.pipeline.size - 1)
      (hasProcessor : job.pipeline.processor? (job.pipeline.size - 1) = some processor)
      (isRefused : turn.isRefused = true) :
      Cause job run (.boundary (job.pipeline.size - 1) processor.name)
  /-- The latest callback has failed. -/
  | failure (turn : Turn T) (processor : Processor T) (source : Failure)
      (accepted : ∀ verdict ∈ run.verdicts, verdict.2 = .ok ())
      (latest : run.turns.getLast? = some turn)
      (hasProcessor : job.pipeline.processor? turn.call.stage = some processor)
      (notRefused : turn.isRefused = false) (result : turn.result = some (.error source)) :
      Cause job run
        (.processor turn.call.stage processor.name turn.call.message.kind source)
  /-- No message waits anywhere. -/
  | starvation (blameless : run.Blameless) (empty : ∀ slot, run.pendingAt slot = []) :
      Cause job run (.starvation run.turns.length job.pipeline.size)
  /-- A message waits, but as many callbacks have been run as the limit allows. -/
  | stepLimit (limit : UInt64) (slot : Slot) (blameless : run.Blameless)
      (waits : run.pendingAt slot ≠ []) (isLimit : job.config.maxSteps = some limit)
      (full : run.turns.length = limit.toNat) : Cause job run (.stepLimit limit.toNat)

/-- A refusal is no acceptance. -/
theorem not_accepted_of_refused {item : T.Response} {failure : Failure}
    (refused : run.verdicts.getLast? = some (item, .error failure)) :
    ¬ ∀ verdict ∈ run.verdicts, verdict.2 = .ok () := by
  intro accepted
  cases accepted _ (List.mem_of_getLast? refused)

/-- The latest turn of a run with nothing to blame on a callback has ended well. -/
theorem Blameless.latest (blameless : run.Blameless) {turn : Turn T}
    (latest : run.turns.getLast? = some turn) :
    turn.isRefused = false ∧ turn.result = some (.ok ()) := by
  have clean := blameless.clean turn (List.mem_of_getLast? latest)
  refine ⟨?_, Turn.result_eq_of_isClean clean⟩
  simp only [Turn.isClean, Bool.and_eq_true, Bool.not_eq_true'] at clean
  exact clean.1

namespace Cause

/-- A cause told in other words. -/
theorem told (cause : Cause job run error) (same : other = error) : Cause job run other :=
  same ▸ cause

/-- Whether a run has just been suspended makes no difference to why it has failed. -/
theorem awake (cause : Cause job run error) : Cause job run.awake error := by
  cases cause with
  | refusal turn item failure latest first sent refused =>
    exact .refusal turn item failure latest first sent refused
  | overreach turn processor accepted latest last hasProcessor isRefused =>
    exact .overreach turn processor accepted latest last hasProcessor isRefused
  | failure turn processor source accepted latest hasProcessor notRefused result =>
    exact .failure turn processor source accepted latest hasProcessor notRefused result
  | starvation blameless empty =>
    exact .starvation ⟨blameless.accepted, blameless.clean, blameless.unended⟩ empty
  | stepLimit limit slot blameless waits isLimit full =>
    exact .stepLimit limit slot ⟨blameless.accepted, blameless.clean, blameless.unended⟩ waits
      isLimit full

/-- **A refused item is the cause**, whatever the callback that has sent it has done. -/
theorem eq_handler {item : T.Response} {failure : Failure} (cause : Cause job run error)
    (refused : run.verdicts.getLast? = some (item, .error failure)) :
    error = .handler failure := by
  have notAccepted := not_accepted_of_refused refused
  cases cause with
  | refusal _ _ source _ _ _ isRefused =>
    cases refused.symm.trans isRefused
    rfl
  | overreach _ _ accepted => exact absurd accepted notAccepted
  | failure _ _ _ accepted => exact absurd accepted notAccepted
  | starvation blameless => exact absurd blameless.accepted notAccepted
  | stepLimit _ _ blameless => exact absurd blameless.accepted notAccepted

/-- **An attempt to send past the last stage is the cause**, unless an item has been refused. -/
theorem eq_boundary {turn : Turn T} {processor : Processor T} (cause : Cause job run error)
    (accepted : ∀ verdict ∈ run.verdicts, verdict.2 = .ok ())
    (latest : run.turns.getLast? = some turn)
    (hasProcessor : job.pipeline.processor? (job.pipeline.size - 1) = some processor)
    (isRefused : turn.isRefused = true) :
    error = .boundary (job.pipeline.size - 1) processor.name := by
  cases cause with
  | refusal _ _ _ _ _ _ refused => exact absurd accepted (not_accepted_of_refused refused)
  | overreach _ other _ _ _ isOther =>
    cases hasProcessor.symm.trans isOther
    rfl
  | failure other _ _ _ isOther _ notRefused =>
    cases latest.symm.trans isOther
    cases isRefused.symm.trans notRefused
  | starvation blameless => cases isRefused.symm.trans (blameless.latest latest).1
  | stepLimit _ _ blameless => cases isRefused.symm.trans (blameless.latest latest).1

/-- **The failure of the latest callback is the cause**, unless there is another one to blame on
it. -/
theorem eq_processor {turn : Turn T} {processor : Processor T} {source : Failure}
    (cause : Cause job run error) (accepted : ∀ verdict ∈ run.verdicts, verdict.2 = .ok ())
    (latest : run.turns.getLast? = some turn)
    (hasProcessor : job.pipeline.processor? turn.call.stage = some processor)
    (notRefused : turn.isRefused = false) (result : turn.result = some (.error source)) :
    error = .processor turn.call.stage processor.name turn.call.message.kind source := by
  cases cause with
  | refusal _ _ _ _ _ _ refused => exact absurd accepted (not_accepted_of_refused refused)
  | overreach other _ _ isOther _ _ isRefused =>
    cases latest.symm.trans isOther
    cases isRefused.symm.trans notRefused
  | failure other _ _ _ isOther hasOther _ otherResult =>
    cases latest.symm.trans isOther
    cases hasProcessor.symm.trans hasOther
    cases result.symm.trans otherResult
    rfl
  | starvation blameless => cases result.symm.trans (blameless.latest latest).2
  | stepLimit _ _ blameless => cases result.symm.trans (blameless.latest latest).2

/-- **Where there is nothing to blame on a callback**, a run starves if nothing waits, and else has
come to its limit. -/
theorem of_blameless (cause : Cause job run error) (blameless : run.Blameless) :
    ((∀ slot, run.pendingAt slot = []) ∧
        error = .starvation run.turns.length job.pipeline.size) ∨
      ∃ limit slot, run.pendingAt slot ≠ [] ∧ job.config.maxSteps = some limit ∧
        error = .stepLimit limit.toNat := by
  cases cause with
  | refusal _ _ _ _ _ _ refused =>
    exact absurd blameless.accepted (not_accepted_of_refused refused)
  | overreach _ _ _ latest _ _ isRefused =>
    cases isRefused.symm.trans (blameless.latest latest).1
  | failure _ _ _ _ latest _ _ result => cases result.symm.trans (blameless.latest latest).2
  | starvation _ empty => exact .inl ⟨empty, rfl⟩
  | stepLimit limit slot _ waits isLimit => exact .inr ⟨limit, slot, waits, isLimit, rfl⟩

/-- **No run has two causes to fail for.** -/
theorem unique (first : Cause job run error) (second : Cause job run other) : other = error := by
  cases first with
  | refusal _ _ _ _ _ _ refused => exact second.eq_handler refused
  | overreach _ _ accepted latest _ hasProcessor isRefused =>
    exact second.eq_boundary accepted latest hasProcessor isRefused
  | failure _ _ _ accepted latest hasProcessor notRefused result =>
    exact second.eq_processor accepted latest hasProcessor notRefused result
  | starvation blameless empty =>
    rcases second.of_blameless blameless with ⟨-, same⟩ | ⟨_, slot, waits, -, -⟩
    · exact same
    · exact absurd (empty slot) waits
  | stepLimit limit slot blameless waits isLimit =>
    rcases second.of_blameless blameless with ⟨empty, -⟩ | ⟨_, _, -, isOther, same⟩
    · exact absurd (empty slot) waits
    · cases isLimit.symm.trans isOther
      exact same

end Cause

/-! ## (2) Moves that fail a run -/

/-- The latest turn of a run is the one that its journal has told last. -/
theorem getLast?_turns {turn : Turn T} {earlier : List (Turn T)}
    (turns : Turn.ofPast run.past = turn :: earlier) : run.turns.getLast? = some turn := by
  rw [turns_eq_concat turns, List.getLast?_concat]

/-- **As long as a run does not fail for a refusal**, all items have been accepted. -/
theorem accepted_of_change (change : Change job run next)
    (accepted : ∀ verdict ∈ run.verdicts, verdict.2 = .ok ())
    (otherwise : ∀ failure, next.outcome ≠ some (.error (.handler failure))) :
    ∀ verdict ∈ next.verdicts, verdict.2 = .ok () := by
  cases change with
  | still _ _ caller => rwa [caller.verdicts]
  | opened _ _ _ _ _ _ caller => rwa [caller.verdicts]
  | acted turn _ _ sent _ _ _ _ _ _ _ caller =>
    cases refusal : (job.handler.offer run.received
        (Outgoing.forCaller turn.call.stage sent)).2.2 with
    | some failure => exact absurd (caller.refused failure refusal) (otherwise failure)
    | none =>
      intro verdict member
      rw [caller.verdicts, Handler.offer_of_accepted refusal] at member
      rcases List.mem_append.mp member with early | late
      · exact accepted verdict early
      · obtain ⟨item, -, rfl⟩ := List.mem_map.mp late
        rfl

/-- A failure calls no processor. -/
theorem turns_fail (job : Job T η) (run : Run T η) (error : RunError) :
    (run.fail job error).turns = run.turns :=
  congrArg List.reverse (ofPast_fail job run error)

/-- A failure leaves nothing to blame on a callback if there was nothing before. -/
theorem Blameless.fail (blameless : run.Blameless) (error : RunError) :
    (run.fail job error).Blameless := by
  refine ⟨?_, ?_, ?_⟩
  · rw [(unasked_fail job run error).verdicts]
    exact blameless.accepted
  · rw [turns_fail]
    exact blameless.clean
  · rw [turns_fail]
    exact blameless.unended

/-- **A run that chooses** has nothing to blame on a callback, unless the end of the pipe is out. -/
theorem blameless_of_running (sound : Sound job run) (orderly : Orderly run) (known : PipeEnd run)
    (accepted : ∀ verdict ∈ run.verdicts, verdict.2 = .ok ()) (state : run.state = .running)
    (eop : run.eopReached = false) :
    run.Blameless ∧ run.turns.length = run.steps := by
  obtain ⟨outcome, flight, -⟩ := sound.atRest state (.inr rfl)
  have unfailed : ∀ error, run.outcome ≠ some (.error error) := by simp [outcome]
  refine ⟨⟨accepted, ?_, ?_⟩, orderly.length_turns_eq_steps unfailed flight⟩
  · intro turn member
    exact orderly.latest unfailed flight turn (List.mem_reverse.mp member)
  · intro turn member ends
    have notEnded := known.endsPipe_eq_false eop turn (List.mem_reverse.mp member)
    cases (Turn.endsPipe_iff.mpr ends).symm.trans notEnded

/-- The limit that a run has reached is that of its job. -/
theorem exists_limit_of_reached {limit : Nat} (reached : run.limitReached job = some limit) :
    ∃ isLimit, job.config.maxSteps = some isLimit ∧ limit = isLimit.toNat ∧
      isLimit.toNat ≤ run.steps := by
  obtain ⟨isLimit, found, struck⟩ := Option.bind_eq_some_iff.mp reached
  split at struck
  · rename_i least
    exact ⟨isLimit, found, (Option.some.inj struck).symm, least⟩
  · cases struck

section Polling

variable {flight : Flight T} {stage : Stage T} {status : Callback.Status T Unit}
  {scene : Callback.Scene T} {turn : Turn T} {earlier : List (Turn T)} {acts : List (Entry T)}

/-- The processor of the callback in flight is the one at its stage. -/
theorem exists_processor_of_engaged (wired : Wired job run)
    (engaged : run.Engaged job flight stage turn earlier) :
    ∃ processor, job.pipeline.processor? flight.slot.stage = some processor ∧
      flight.processor = processor.name := by
  obtain ⟨processor, hasProcessor, blank⟩ := wired.exists_processor engaged.found
  exact ⟨processor, hasProcessor, engaged.processor.trans (congrArg Stage.processor blank)⟩

/-- **Only the callback of the last stage** tries to send past it. -/
theorem stage_eq_of_violation (wired : Wired job run)
    (engaged : run.Engaged job flight stage turn earlier)
    (acted : Callback.Scene.Acted ⟨stage, run.memory, run.past⟩ scene acts)
    (violation : scene.stage.violation = true) : flight.slot.stage = job.pipeline.size - 1 := by
  have still := engaged_afterPoll job engaged acted
  have isRefused := (isRefused_eq_violation engaged acted).trans violation
  have isLast := still.isLast_of_isRefused isRefused
  rw [(wired_afterPoll wired engaged.found acted).isLast_eq still.found, beq_iff_eq] at isLast
  exact Nat.eq_sub_of_add_eq isLast

/-- **An item that is refused** in a poll is one that the callback has sent in it, from the first
stage. -/
theorem exists_refused_item (wired : Wired job run)
    (engaged : run.Engaged job flight stage turn earlier)
    (acted : Callback.Scene.Acted ⟨stage, run.memory, run.past⟩ scene acts) {failure : Failure}
    (refused : (job.handler.offer run.received scene.stage.callerQueue).2.2 = some failure) :
    flight.slot.stage = 0 ∧ ∃ before item, .response (.item item) ∈ Journal.sent acts ∧
      (job.handler.offer run.received scene.stage.callerQueue).2.1 =
        Handler.acceptances before ++ [(item, .error failure)] := by
  obtain ⟨before, item, behind, items, offered⟩ := Handler.offer_of_refused refused
  have member : item ∈ Outgoing.forCaller flight.slot.stage (Journal.sent acts) := by
    rw [← callerQueue_of_acted wired engaged.found acted, items]
    simp
  unfold Outgoing.forCaller at member
  split at member
  · rename_i first
    obtain ⟨message, isSent, isItem⟩ := List.mem_filterMap.mp member
    refine ⟨first, before, item, ?_, offered⟩
    rcases message with request | _ | _ <;> cases isItem
    exact isSent
  · cases member

end Polling

/-- **A move that fails a run** has a cause. -/
theorem cause_of_move (sound : Sound job run) (orderly : Orderly run) (known : PipeEnd run)
    (within : ∀ limit, job.config.maxSteps = some limit → Within limit.toNat run)
    (accepted : ∀ verdict ∈ run.verdicts, verdict.2 = .ok ()) (unfinished : run.outcome = none)
    (move : Move job run next) (failed : next.outcome = some (.error error)) :
    Cause job next error := by
  have change := change_of_move sound move
  cases move with
  | announce state =>
    obtain ⟨reports, announced⟩ := run.announce_eq job
    rw [announced] at failed
    cases unfinished.symm.trans failed
  | succeed state eop =>
    obtain ⟨reports, succeeded⟩ := run.succeed_eq job
    rw [succeeded] at failed
    cases failed
  | starve state eop next =>
    cases (outcome_fail job run _).symm.trans failed
    obtain ⟨blameless, count⟩ := blameless_of_running sound orderly known accepted state eop
    have empty : ∀ slot, (run.fail job (.starvation run.steps run.stages.length)).pendingAt slot =
        [] := by
      intro slot
      rw [pendingAt_fail]
      by_contra waits
      exact ReadyQueue.next?_eq_none_iff.mp next slot ((sound.ready slot).mpr waits)
    have cause : Cause job _ _ := .starvation (blameless.fail _) empty
    rwa [turns_fail, count, ← sound.length_eq] at cause
  | exceed slot limit state eop next reached =>
    cases (outcome_fail job run _).symm.trans failed
    obtain ⟨blameless, count⟩ := blameless_of_running sound orderly known accepted state eop
    obtain ⟨isLimit, found, rfl, least⟩ := exists_limit_of_reached reached
    refine .stepLimit isLimit slot (blameless.fail _) ?_ found ?_
    · rw [pendingAt_fail]
      exact (sound.ready slot).mp (ReadyQueue.next?_eq_some_iff.mp next).1
    · rw [turns_fail]
      exact Nat.le_antisymm (within isLimit found).length (count ▸ least)
  | choose slot state eop next free =>
    rw [become_eq] at failed
    cases unfinished.symm.trans failed
  | start slot stage processor message rest state outcome =>
    cases outcome.symm.trans failed
  | refuse flight stage status scene failure polled refused =>
    cases (outcome_fail job _ _).symm.trans failed
    obtain ⟨turn, earlier, acts, engaged, acted⟩ := exists_acted sound polled
    have still := engaged_afterPoll job engaged acted
    obtain ⟨first, before, item, sent, offered⟩ :=
      exists_refused_item sound.toWired engaged acted refused
    refine .refusal (turn.extend acts) item failure
      (getLast?_turns ((ofPast_fail job _ _).trans still.turns)) (still.place.trans first)
      (List.mem_append_right _ sent) ?_
    rw [(unasked_fail job _ _).verdicts, verdicts_afterPoll job _ acted, offered,
      ← List.append_assoc, List.getLast?_concat]
  | wait flight stage scene rest polled =>
    cases polled.outcome.symm.trans failed
  | overreach flight stage scene result polled _ violation =>
    have raised := (outcome_fail job _ _).symm.trans failed
    cases raised
    have calm := accepted_of_change change accepted fun failure refused => by
      cases failed.symm.trans refused
    obtain ⟨turn, earlier, acts, engaged, acted⟩ := exists_acted sound polled
    obtain ⟨processor, hasProcessor, name⟩ := exists_processor_of_engaged sound.toWired engaged
    have last := stage_eq_of_violation sound.toWired engaged acted violation
    have cause : Cause job _ _ := .overreach ((turn.extend acts).ended result) processor calm
      (getLast?_turns ((ofPast_fail job _ _).trans
        (ofPast_afterPoll_settled job engaged acted result)))
      (engaged.place.trans last) (last ▸ hasProcessor)
      ((isRefused_eq_violation engaged acted).trans violation)
    exact cause.told (by rw [name, last])
  | fail flight stage scene failure polled _ violation =>
    have raised := (outcome_fail job _ _).symm.trans failed
    cases raised
    have calm := accepted_of_change change accepted fun failure refused => by
      cases failed.symm.trans refused
    obtain ⟨turn, earlier, acts, engaged, acted⟩ := exists_acted sound polled
    obtain ⟨processor, hasProcessor, name⟩ := exists_processor_of_engaged sound.toWired engaged
    have cause : Cause job _ _ := .failure ((turn.extend acts).ended (.error failure)) processor
      failure calm (getLast?_turns ((ofPast_fail job _ _).trans
        (ofPast_afterPoll_settled job engaged acted (.error failure))))
      (engaged.place ▸ hasProcessor) ((isRefused_eq_violation engaged acted).trans violation) rfl
    refine cause.told ?_
    rw [name, ← engaged.place, ← engaged.kind]
    rfl
  | finish flight stage scene polled accepted violation =>
    obtain ⟨turn, earlier, acts, engaged, acted⟩ := exists_acted sound polled
    obtain ⟨reports, finished⟩ := finish_eq sound.toWired engaged acted
    rw [finished] at failed
    cases polled.outcome.symm.trans failed
  | stop => cases unfinished.symm.trans failed

/-! ## (3) The result -/

/-- In a run that has not come to its end, all items have been accepted. -/
theorem accepted_of_unfinished (job : Job T η) (received : η) (memory : T.Memory) (n : Nat)
    (unfinished : ((seed job received memory).after job n).outcome = none) :
    ∀ verdict ∈ ((seed job received memory).after job n).verdicts, verdict.2 = .ok () := by
  have all := (delivered_after job received memory n).verdicts_eq (by simp [unfinished])
  intro verdict member
  rw [all] at member
  obtain ⟨item, -, rfl⟩ := List.mem_map.mp member
  rfl

/-- **Every run that has failed has a cause.** -/
theorem cause_after (job : Job T η) (received : η) (memory : T.Memory) (n : Nat)
    (failed : ((seed job received memory).after job n).outcome = some (.error error)) :
    Cause job ((seed job received memory).after job n) error := by
  induction n with
  | zero => cases failed
  | succ n ih =>
    have sound := sound_after job received memory n
    -- The step either is the one that has failed the run, or comes behind it.
    cases outcome : ((seed job received memory).after job n).outcome with
    | some result =>
      have stays : ((seed job received memory).after job (n + 1)) =
          ((seed job received memory).after job n).awake := step_of_finished sound outcome
      rw [stays] at failed ⊢
      exact (ih failed).awake
    | none =>
      have orderly := orderly_after job received memory n
      have known := pipeEnd_after job received memory n
      have accepted := accepted_of_unfinished job received memory n outcome
      have within : ∀ limit, job.config.maxSteps = some limit →
          Within limit.toNat ((seed job received memory).after job n).awake := by
        intro limit isLimit
        have same : job.withMaxSteps (some limit) = job := by rw [← isLimit]; rfl
        have stays := within_under job limit received memory n
        rw [under, same] at stays
        exact ⟨stays.length, stays.chosen⟩
      exact cause_of_move sound.awake ⟨orderly.earlier, orderly.latest, orderly.steps⟩
        ⟨known.reached, known.earlier, known.idle, known.success, known.failure⟩ within accepted
        outcome (move_step sound) failed

/-- **Every run that fails does so for one cause**, and its error tells which one: an item that the
handler has refused, else an attempt to send past the last stage, else a failure of the callback
under way, each attributed to the latest callback; and if there is none of these, the end of the
pipe is not out, and the run fails because nothing waits or because its limit is reached. Where
several of them come together in one poll, a refused item counts before the attempt and the failure,
however the callback has ended, and the attempt counts before the failure. -/
theorem fails_for_one_cause (job : Job T η) (received : η) (memory : T.Memory) (n : Nat) :
    let run := (seed job received memory).after job n
    (∀ error, run.outcome = some (.error error) → ∀ other, Cause job run other ↔ other = error) ∧
    ∀ flight stage status scene, run.Polled flight stage status scene →
      let refusal := (job.handler.offer run.received scene.stage.callerQueue).2.2
      (∀ failure, refusal = some failure →
        (run.step job).outcome = some (.error (.handler failure))) ∧
      (refusal = none → ∀ result, status = .finished result → scene.stage.violation = true →
        ∃ processor, job.pipeline.processor? (job.pipeline.size - 1) = some processor ∧
          (run.step job).outcome =
            some (.error (.boundary (job.pipeline.size - 1) processor.name))) ∧
      (refusal = none → ∀ source, status = .finished (.error source) →
        scene.stage.violation = false →
        ∃ processor, job.pipeline.processor? flight.slot.stage = some processor ∧
          (run.step job).outcome = some (.error
            (.processor flight.slot.stage processor.name flight.slot.kind source))) := by
  intro run
  have sound : Sound job run := sound_after job received memory n
  refine ⟨fun error failed other => ?cause, fun flight stage status scene polled => ?_⟩
  case cause =>
    have cause : Cause job run error := cause_after job received memory n failed
    constructor
    · exact fun another => cause.unique another
    · rintro rfl
      exact cause
  intro refusal
  have awake : run.awake.Polled flight stage status scene :=
    ⟨polled.state, polled.outcome, polled.isFlight, polled.current, polled.found, polled.polled⟩
  obtain ⟨turn, earlier, acts, engaged, acted⟩ := exists_acted sound.awake awake
  obtain ⟨processor, hasProcessor, name⟩ := exists_processor_of_engaged sound.awake.toWired engaged
  have stepped : run.step job = run.awake.pollFlight job flight :=
    step_of_inFlight polled.state polled.isFlight
  refine ⟨fun failure refused => ?refused, fun accepted result finished violation => ?overreach,
    fun accepted source finished violation => ?failed⟩
  case refused =>
    rw [stepped, pollFlight_of_refused awake.found awake.polled refused, outcome_fail]
  case overreach =>
    subst finished
    have last := stage_eq_of_violation sound.awake.toWired engaged acted violation
    have found : (run.awake.afterPoll job flight.slot.stage scene).stages[flight.slot.stage]? =
        some scene.stage.clearCaller := getElem?_afterPoll job scene awake.found
    refine ⟨processor, last ▸ hasProcessor, ?_⟩
    rw [stepped, pollFlight_of_finished awake.found awake.polled accepted,
      settle_of_violation found violation, outcome_fail, name, last]
  case failed =>
    subst finished
    have found : (run.awake.afterPoll job flight.slot.stage scene).stages[flight.slot.stage]? =
        some scene.stage.clearCaller := getElem?_afterPoll job scene awake.found
    refine ⟨processor, hasProcessor, ?_⟩
    rw [stepped, pollFlight_of_finished awake.found awake.polled accepted,
      settle_of_error found violation, outcome_fail, name]

end Run

end Relay
