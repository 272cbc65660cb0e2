import Relay.Proofs.Rounds.Round

/-!
# Between two rounds

Between two rounds a run stands still: it has told which callbacks it has run and what has been sent
to the caller, and messages wait in its queues. The next round takes the first of these, and its
callback decides what comes of it: the run stands again, with the queues moved on by what has been
sent; or the end of the pipe is out, and the run succeeds; or the run fails.

* `Run.Stands` is what is known of a run between two rounds, and `Run.moveOn` says what a round
  makes of its queues.
* `Run.Stands.goes_on`, `Run.Stands.succeeds`, `Run.Stands.fails` and `Run.Stands.starves` say what
  may come next.
-/

namespace Relay

variable {T : Traffic} {η : Type}

/-- **What a summary counts**: the requests and the replies that have been handled, both of them
together as steps, and the items that the handler has accepted. -/
structure RunSummary.Counts (summary : RunSummary) (requests responses delivered : Nat) : Prop where
  steps : summary.steps = requests + responses
  requests : summary.requestsProcessed = requests
  responses : summary.responsesProcessed = responses
  delivered : summary.responsesDelivered = delivered

namespace Run

variable {job : Job T η} {run next : Run T η} {slots : List Slot} {items : List T.Response}
  {queues : Slot → List (Message T)} {keeps : List (StageData T.Value) → T.Memory → Prop}
  {slot : Slot} {message : Message T} {turn : Turn T} {ending : Ending T}

/-- **What waits where after a round**: its message has left the queue, and what its callback has
sent has arrived. -/
def moveOn (queues : Slot → List (Message T)) (slot : Slot) (sent : List (Outgoing T)) :
    Slot → List (Message T) :=
  fun other => (if other = slot then (queues other).tail else queues other) ++
    Outgoing.arrivals slot.stage other sent

/-! ## (1) Runs that stand -/

/-- **What a run has told**: from which queues the messages of its callbacks have come, and which
items have been sent to the caller. -/
structure Told (slots : List Slot) (items : List T.Response) (run : Run T η) : Prop where
  slots : run.turns.map (·.call.slot) = slots
  items : Turn.forCaller run.turns = items

/-- One more turn is told of. -/
theorem Told.took (told : Told slots items run) (took : Took slot message turn ending run next) :
    Told (slots ++ [slot]) (items ++ Outgoing.forCaller slot.stage ending.sent) next := by
  have stage : turn.call.stage = slot.stage := congrArg Slot.stage took.place
  constructor
  · rw [took.turns, List.map_append, told.slots, ← took.place]
    rfl
  · rw [took.turns, Turn.forCaller_concat, told.items, stage, took.sent]

/-- **A run that stands between two rounds**: the end of the pipe is not out, so many messages wait,
and something is known of what stages keep and processors remember. -/
structure Stands (job : Job T η) (slots : List Slot) (items : List T.Response)
    (queues : Slot → List (Message T)) (keeps : List (StageData T.Value) → T.Memory → Prop)
    (run : Run T η) : Prop extends Told slots items run where
  state : run.state = .running
  eop : run.eopReached = false
  waits : ∀ slot : Slot, slot.stage < job.pipeline.size → run.pendingAt slot = queues slot
  keeps : keeps run.kept run.memory

/-- **The message whose turn it is**: it is the first of its queue, nothing waits in the queues that
come before, and a processor is there to handle it. -/
structure IsNext (job : Job T η) (queues : Slot → List (Message T)) (slot : Slot)
    (message : Message T) (processor : Processor T) : Prop where
  waits : ∃ rest, queues slot = message :: rest
  first : ∀ other : Slot, other.rank < slot.rank → queues other = []
  hasProcessor : job.pipeline.processor? slot.stage = some processor

/-- Only the queues of the pipeline matter. -/
theorem Stands.of_queues_eq (stands : Stands job slots items queues keeps run)
    {others : Slot → List (Message T)}
    (same : ∀ slot : Slot, slot.stage < job.pipeline.size → queues slot = others slot) :
    Stands job slots items others keeps run :=
  { stands with waits := fun slot within => (stands.waits slot within).trans (same slot within) }

/-- **What a round does to the queues.** -/
theorem Took.pendingAt_eq (took : Took slot message turn ending run next)
    (conserved : Conserved job run) (conservedNext : Conserved job next)
    (waits : ∃ rest, run.pendingAt slot = message :: rest) (clean : turn.isClean = true)
    (other : Slot) (within : other.stage < job.pipeline.size) :
    next.pendingAt other = moveOn run.pendingAt slot ending.sent other := by
  obtain ⟨rest, isRest⟩ := waits
  have before := conserved other within
  have behind := conservedNext other within
  have stage : turn.call.stage = slot.stage := congrArg Slot.stage took.place
  rw [took.turns, Turn.delivered_concat, Turn.contributed_concat, if_pos clean, stage, took.sent,
    ← List.append_assoc, ← before, List.append_assoc, List.append_assoc] at behind
  have parts := List.append_cancel_left behind
  rw [moveOn]
  by_cases own : other = slot
  · subst own
    rw [if_pos (Turn.isFrom_iff.mpr took.place), took.isFor, isRest] at parts
    rw [if_pos rfl, isRest]
    exact (List.cons.inj parts).2
  · have notFrom : turn.isFrom other = false := by
      refine Bool.eq_false_iff.mpr fun isFrom => own ?_
      exact (Turn.isFrom_iff.mp isFrom).symm.trans took.place
    rw [notFrom] at parts
    rw [if_neg own]
    exact parts

/-! ## (2) What may come next -/

section Reached

variable {received : η} {memory : T.Memory} {n : Nat}

/-- At the beginning nothing is kept. -/
theorem kept_seed (job : Job T η) (received : η) (memory : T.Memory) :
    (seed job received memory).kept = List.replicate job.pipeline.size .empty := by
  have sound := sound_seed job received memory
  refine List.eq_replicate_iff.mpr ⟨length_kept sound, fun data member => ?_⟩
  obtain ⟨stage, isStage, rfl⟩ := List.mem_map.mp member
  obtain ⟨index, found⟩ := List.mem_iff_getElem?.mp isStage
  by_cases first : index = 0
  · subst first
    obtain ⟨fresh, isFresh, same⟩ := getElem?_seed_zero job received memory
    obtain rfl := Option.some.inj (found.symm.trans same)
    have blank := eq_blank_of_fresh isFresh
    rw [blank]
    rfl
  · rw [getElem?_seed_of_ne job received memory first] at found
    rw [eq_blank_of_fresh found]
    rfl

/-- **A run first stands** when it has been announced. -/
theorem stands_first (job : Job T η) (received : η) (memory : T.Memory)
    (known : keeps (List.replicate job.pipeline.size .empty) memory) :
    Stands job [] [] (initial job) keeps ((seed job received memory).after job 1) := by
  have first : (seed job received memory).after job 1 =
      ((seed job received memory).awake.announce job).become .running := step_of_seeded rfl
  obtain ⟨reports, announced⟩ := (seed job received memory).awake.announce_eq job
  have turns : Turn.ofPast ((seed job received memory).after job 1).past = [] := by
    rw [first, announced, become_eq, reporting_reporting]
    exact Turn.ofPast_reports _ _
  constructor
  case toTold =>
    have none : ((seed job received memory).after job 1).turns = [] := congrArg List.reverse turns
    exact ⟨by rw [none]; rfl, by rw [none]; rfl⟩
  case state => rw [first]; rfl
  case eop => rw [first, announced]; rfl
  case waits =>
    intro slot _
    rw [first, announced]
    exact pendingAt_seed job received memory slot
  case keeps =>
    rw [first, announced]
    rw [← kept_seed job received memory] at known
    exact known

section Rounds

variable (accepting : job.handler.IsAccepting) (unlimited : job.config.maxSteps = none)
  (stands : Stands job slots items queues keeps ((seed job received memory).after job n))

include accepting unlimited stands

/-- **A run that stands takes a round** if the handler accepts everything and there is no limit. -/
theorem Stands.exists_took {processor : Processor T}
    (isNext : IsNext job queues slot message processor)
    {holds : List (StageData T.Value) → Ending T → Prop}
    (ends : ∀ data kept memory, keeps kept memory → kept[slot.stage]? = some data →
      (processor.handle message).Ends (slot.stage + 1 == job.pipeline.size) data memory
        (holds kept)) :
    ∃ m turn ending, holds ((seed job received memory).after job n).kept ending ∧
      Took slot message turn ending ((seed job received memory).after job n)
        ((seed job received memory).after job m) := by
  obtain ⟨⟨rest, waits⟩, first, hasProcessor⟩ := isNext
  have sound := sound_after job received memory n
  have within : slot.stage < job.pipeline.size := (List.getElem?_eq_some_iff.mp hasProcessor).1
  have isKept : ((seed job received memory).after job n).kept[slot.stage]? = some _ :=
    List.getElem?_eq_getElem (length_kept sound ▸ within)
  have empty : ∀ other : Slot, other.rank < slot.rank →
      ((seed job received memory).after job n).pendingAt other = [] := by
    intro other before
    have le : other.stage ≤ slot.stage := by
      rcases Slot.rank_lt_iff.mp before with lt | ⟨same, -⟩
      · exact Nat.le_of_lt lt
      · exact Nat.le_of_eq same
    rw [stands.waits other (Nat.lt_of_le_of_lt le within), first other before]
  obtain ⟨m, turn, ending, isEnd, took⟩ := exists_round sound accepting unlimited stands.state
    stands.eop ((stands.waits slot within).trans waits) empty hasProcessor isKept
    (ends _ _ _ stands.keeps isKept)
  refine ⟨n + m, turn, ending, isEnd, ?_⟩
  rw [after_add]
  exact took

/-- **A round whose callback ends well** moves the queues on. -/
theorem Stands.exists_clean {processor : Processor T}
    (isNext : IsNext job queues slot message processor) {sent : List (Outgoing T)}
    {later : List (StageData T.Value) → T.Memory → Prop}
    (ends : ∀ data kept memory, keeps kept memory → kept[slot.stage]? = some data →
      (processor.handle message).Ends (slot.stage + 1 == job.pipeline.size) data memory
        (Ending.IsClean sent fun data memory => later (kept.set slot.stage data) memory)) :
    ∃ m, Told (slots ++ [slot]) (items ++ Outgoing.forCaller slot.stage sent)
        ((seed job received memory).after job m) ∧
      ((seed job received memory).after job m).state = .running ∧
      ((seed job received memory).after job m).eopReached =
        (slot.stage == 0 && sent.any Outgoing.isEop) ∧
      (∀ other : Slot, other.stage < job.pipeline.size →
        ((seed job received memory).after job m).pendingAt other = moveOn queues slot sent other) ∧
      later ((seed job received memory).after job m).kept
        ((seed job received memory).after job m).memory := by
  obtain ⟨m, turn, ending, isClean, took⟩ := stands.exists_took accepting unlimited isNext ends
  have stage : turn.call.stage = slot.stage := congrArg Slot.stage took.place
  have clean : turn.isClean = true := by
    rw [Turn.isClean, took.isRefused, isClean.notRefused, took.result, isClean.result]
    rfl
  refine ⟨m, isClean.sent ▸ stands.toTold.took took, took.state clean, ?_, ?_, ?_⟩
  · -- No turn before has ended the pipe.
    have none := (pipeEnd_after job received memory n).reached.symm.trans stands.eop
    have turns : Turn.ofPast ((seed job received memory).after job m).past =
        turn :: Turn.ofPast ((seed job received memory).after job n).past := by
      rw [ofPast_of_turns_eq took.turns, turns, List.reverse_reverse]
    rw [(pipeEnd_after job received memory m).reached, turns, List.any_cons, none, Bool.or_false,
      Turn.endsPipe, clean, stage, took.sent, isClean.sent, Bool.true_and]
  · intro other within
    obtain ⟨rest, waits⟩ := isNext.waits
    have size : slot.stage < job.pipeline.size :=
      (List.getElem?_eq_some_iff.mp isNext.hasProcessor).1
    have moved := took.pendingAt_eq (conserved_after job received memory n)
      (conserved_after job received memory m) ⟨rest, (stands.waits slot size).trans waits⟩ clean
      other within
    rw [moved, isClean.sent, moveOn, moveOn, stands.waits other within]
  · have left := isClean.leaves
    rwa [← took.kept, ← took.memory] at left

/-- **The run stands again** unless the end of the pipe is out. -/
theorem Stands.goes_on {processor : Processor T}
    (isNext : IsNext job queues slot message processor) {sent : List (Outgoing T)}
    {later : List (StageData T.Value) → T.Memory → Prop}
    (ends : ∀ data kept memory, keeps kept memory → kept[slot.stage]? = some data →
      (processor.handle message).Ends (slot.stage + 1 == job.pipeline.size) data memory
        (Ending.IsClean sent fun data memory => later (kept.set slot.stage data) memory))
    (unended : slot.stage = 0 → sent.any Outgoing.isEop = false) :
    ∃ m, Stands job (slots ++ [slot]) (items ++ Outgoing.forCaller slot.stage sent)
      (moveOn queues slot sent) later ((seed job received memory).after job m) := by
  obtain ⟨m, told, state, eop, waits, left⟩ :=
    stands.exists_clean accepting unlimited isNext ends
  refine ⟨m, told, state, eop.trans ?_, waits, left⟩
  by_cases first : slot.stage = 0
  · rw [unended first, Bool.and_false]
  · simp [first]

/-- **The run succeeds** if the end of the pipe is out, and whatever still waits is dropped. -/
theorem Stands.succeeds {processor : Processor T}
    (isNext : IsNext job queues slot message processor) {sent : List (Outgoing T)}
    {later : List (StageData T.Value) → T.Memory → Prop}
    (ends : ∀ data kept memory, keeps kept memory → kept[slot.stage]? = some data →
      (processor.handle message).Ends (slot.stage + 1 == job.pipeline.size) data memory
        (Ending.IsClean sent fun data memory => later (kept.set slot.stage data) memory))
    (first : slot.stage = 0) (sentEop : sent.any Outgoing.isEop = true) :
    ∃ m summary, ((seed job received memory).after job m).outcome = some (.ok summary) ∧
      Told (slots ++ [slot]) (items ++ Outgoing.forCaller slot.stage sent)
        ((seed job received memory).after job m) ∧
      ∀ other : Slot, other.stage < job.pipeline.size →
        ((seed job received memory).after job m).pendingAt other =
          moveOn queues slot sent other := by
  obtain ⟨m, told, state, eop, waits, -⟩ := stands.exists_clean accepting unlimited isNext ends
  rw [first, sentEop] at eop
  have isOut : ((seed job received memory).after job m).awake.eopReached = true := eop
  obtain ⟨reports, succeeded⟩ := ((seed job received memory).after job m).awake.succeed_eq job
  have last : (seed job received memory).after job (m + 1) =
      ((seed job received memory).after job m).awake.succeed job :=
    (step_of_running state).trans (choose_of_eop isOut _)
  have turns : ((seed job received memory).after job (m + 1)).turns =
      ((seed job received memory).after job m).turns := by
    rw [last, succeeded]
    exact congrArg List.reverse (Turn.ofPast_reports reports _)
  refine ⟨m + 1, _, by rw [last, succeeded], ?_, fun other within => ?_⟩
  · exact ⟨by rw [turns]; exact told.slots, by rw [turns]; exact told.items⟩
  · rw [last, succeeded]
    exact waits other within

/-- **A round whose callback does not end well** fails the run, for a cause that its turn tells. -/
theorem Stands.exists_unclean {processor : Processor T}
    (isNext : IsNext job queues slot message processor) {holds : Ending T → Prop}
    (ends : ∀ data memory, (processor.handle message).Ends (slot.stage + 1 == job.pipeline.size)
      data memory holds)
    (unclean : ∀ ending, holds ending → ending.isRefused = true ∨ ending.result ≠ .ok ()) :
    ∃ m turn ending error, holds ending ∧
      Took slot message turn ending ((seed job received memory).after job n)
        ((seed job received memory).after job m) ∧
      ((seed job received memory).after job m).outcome = some (.error error) ∧
      Cause job ((seed job received memory).after job m) error ∧
      ((seed job received memory).after job m).turns.getLast? = some turn ∧
      ∀ verdict ∈ ((seed job received memory).after job m).verdicts, verdict.2 = .ok () := by
  obtain ⟨m, turn, ending, isEnd, took⟩ := stands.exists_took accepting unlimited isNext
    fun data _ memory _ _ => ends data memory
  have notClean : ¬ turn.isClean = true := by
    intro clean
    rcases unclean ending isEnd with isRefused | failed
    · rw [← took.isRefused] at isRefused
      cases (Turn.isClean_of_isRefused isRefused).symm.trans clean
    · exact failed (Option.some.inj (took.result.symm.trans (Turn.result_eq_of_isClean clean)))
  have latest : ((seed job received memory).after job m).turns.getLast? = some turn := by
    rw [took.turns, List.getLast?_concat]
  -- As long as a run has not failed, all turns have ended well when no callback is in flight.
  have failed : ∃ error, ((seed job received memory).after job m).outcome =
      some (.error error) := by
    by_contra unfailed
    refine notClean ((orderly_after job received memory m).latest
      (fun error isError => unfailed ⟨error, isError⟩) took.flight turn ?_)
    exact List.mem_reverse.mp (List.mem_of_getLast? latest)
  obtain ⟨error, isError⟩ := failed
  refine ⟨m, turn, ending, error, isEnd, took, isError, cause_after job received memory m isError,
    latest, fun verdict member => ?_⟩
  rw [(delivered_after job received memory m).verdicts, accepting.offer_eq] at member
  obtain ⟨item, -, rfl⟩ := List.mem_map.mp member
  rfl

/-- **The run fails at the boundary** if the last stage has tried to send a request. -/
theorem Stands.oversteps {processor : Processor T}
    (isNext : IsNext job queues slot message processor) {sent : List (Outgoing T)}
    (ends : ∀ data memory, (processor.handle message).Ends (slot.stage + 1 == job.pipeline.size)
      data memory fun ending => ending.sent = sent ∧ ending.isRefused = true)
    (last : slot.stage = job.pipeline.size - 1) :
    ∃ m, ((seed job received memory).after job m).outcome =
        some (.error (.boundary slot.stage processor.name)) ∧
      Told (slots ++ [slot]) (items ++ Outgoing.forCaller slot.stage sent)
        ((seed job received memory).after job m) := by
  obtain ⟨m, turn, ending, error, ⟨isSent, isRefused⟩, took, failed, cause, latest, accepted⟩ :=
    stands.exists_unclean accepting unlimited isNext ends fun _ holds => .inl holds.2
  refine ⟨m, ?_, isSent ▸ stands.toTold.took took⟩
  rw [failed, last, cause.eq_boundary accepted latest (last ▸ isNext.hasProcessor)
    (took.isRefused.trans isRefused)]

/-- **The run fails as its callback does.** -/
theorem Stands.fails {processor : Processor T}
    (isNext : IsNext job queues slot message processor) {sent : List (Outgoing T)}
    {failure : Failure}
    (ends : ∀ data memory, (processor.handle message).Ends (slot.stage + 1 == job.pipeline.size)
      data memory fun ending =>
        ending.sent = sent ∧ ending.isRefused = false ∧ ending.result = .error failure) :
    ∃ m, ((seed job received memory).after job m).outcome =
        some (.error (.processor slot.stage processor.name slot.kind failure)) ∧
      Told (slots ++ [slot]) (items ++ Outgoing.forCaller slot.stage sent)
        ((seed job received memory).after job m) := by
  obtain ⟨m, turn, ending, error, ⟨isSent, notRefused, isError⟩, took, failed, cause, latest,
    accepted⟩ := stands.exists_unclean accepting unlimited isNext ends
      fun _ holds => .inr (by rw [holds.2.2]; exact nofun)
  have stage : turn.call.stage = slot.stage := congrArg Slot.stage took.place
  have kind : turn.call.message.kind = slot.kind := congrArg Slot.kind took.place
  refine ⟨m, ?_, isSent ▸ stands.toTold.took took⟩
  rw [failed, cause.eq_processor accepted latest (stage ▸ isNext.hasProcessor)
    (took.isRefused.trans notRefused) (took.result.trans (congrArg some isError)), stage, kind]

end Rounds

/-- **The run starves** if nothing waits. -/
theorem Stands.starves
    (stands : Stands job slots items queues keeps ((seed job received memory).after job n))
    (empty : ∀ slot : Slot, slot.stage < job.pipeline.size → queues slot = []) :
    ∃ m, ((seed job received memory).after job m).outcome =
        some (.error (.starvation slots.length job.pipeline.size)) ∧
      Told slots items ((seed job received memory).after job m) := by
  have sound := sound_after job received memory n
  obtain ⟨outcome, idle, -⟩ := sound.atRest stands.state (.inr rfl)
  have steps : ((seed job received memory).after job n).steps = slots.length := by
    rw [← (orderly_after job received memory n).length_turns_eq_steps (by simp [outcome]) idle,
      ← stands.slots, List.length_map]
  have nothing : ((seed job received memory).after job n).ready.next? = none := by
    refine ReadyQueue.next?_eq_none_iff.mpr fun slot ready => (sound.ready slot).mp ready ?_
    rcases Nat.lt_or_ge slot.stage job.pipeline.size with within | outside
    · rw [stands.waits slot within, empty slot within]
    · exact pendingAt_of_outside (sound.length_eq ▸ outside)
  have isOpen : ((seed job received memory).after job n).awake.eopReached = false := stands.eop
  have last : (seed job received memory).after job (n + 1) =
      ((seed job received memory).after job n).awake.fail job
        (.starvation slots.length job.pipeline.size) := by
    refine (step_of_running stands.state).trans ?_
    rw [nothing, choose_none isOpen, ← steps, ← sound.length_eq]
    rfl
  have turns : ((seed job received memory).after job (n + 1)).turns =
      ((seed job received memory).after job n).turns := by
    rw [last, turns_fail]
    rfl
  refine ⟨n + 1, by rw [last, outcome_fail], ?_, ?_⟩
  · rw [turns]
    exact stands.slots
  · rw [turns]
    exact stands.items

end Reached

/-! ## (3) Runs that have come out -/

/-- **However a run is polled, it comes to its end in a state like that**: every run polled often
enough does, and so does every state with an outcome. -/
def Settles (job : Job T η) (received : η) (memory : T.Memory) (P : Run T η → Prop) : Prop :=
  (∃ n, ∀ fuel polls, n ≤ fuel → n ≤ polls →
    P ((seed job received memory).pollToEnd job fuel polls).1) ∧
  ∀ n, ((seed job received memory).after job n).outcome ≠ none →
    P ((seed job received memory).after job n)

/-- **A run that has come out** with a result, after callbacks with the messages of these queues,
and with these items offered to the handler and accepted by it. -/
structure CameOut (result : Except RunError RunSummary) (slots : List Slot)
    (items : List T.Response) (run : Run T η) : Prop where
  outcome : run.outcome = some result
  calls : run.turns.map (·.call.slot) = slots
  offers : Journal.offers run.journal = items
  accepted : Journal.accepted run.journal = items
  steps : run.steps = slots.length
  requests : run.requestsProcessed = slots.countP (·.kind = .request)
  responses : run.responsesProcessed = slots.countP (·.kind = .response)
  summary : ∀ summary, result = .ok summary →
    summary.Counts (slots.countP (·.kind = .request)) (slots.countP (·.kind = .response))
      items.length

section Settling

variable {received : η} {memory : T.Memory} {n : Nat} {result : Except RunError RunSummary}

/-- **A run that has come to its end** has settled there. -/
theorem settles_of_finished {P : Run T η → Prop}
    (finished : ((seed job received memory).after job n).outcome = some result)
    (holds : ∀ isWaiting, P { ((seed job received memory).after job n) with isWaiting }) :
    Settles job received memory P := by
  constructor
  · refine ⟨n, fun fuel polls enough often => ?_⟩
    have ends : ((seed job received memory).after job n).isFinished = true :=
      Option.isSome_iff_exists.mpr ⟨result, finished⟩
    rw [pollToEnd_eq (sound_seed job received memory) rfl ends enough often]
    exact holds _
  · intro m ended
    obtain ⟨other, isOther⟩ := Option.ne_none_iff_exists'.mp ended
    -- Both states are that of the later one, pauses aside.
    have first := awake_after_of_finished (Nat.le_max_left n m) finished
    have second := awake_after_of_finished (Nat.le_max_right n m) isOther
    have same : ((seed job received memory).after job m) =
        { ((seed job received memory).after job n).awake with
          isWaiting := ((seed job received memory).after job m).isWaiting } := by
      rw [← first, second]
      rfl
    rw [same]
    exact holds _

/-- **What a run has told** is how it has come out. -/
theorem Told.cameOut (told : Told slots items ((seed job received memory).after job n))
    (accepting : job.handler.IsAccepting)
    (finished : ((seed job received memory).after job n).outcome = some result) :
    CameOut result slots items ((seed job received memory).after job n) := by
  have counted := counted_after job received memory n
  have verdicts := (delivered_after job received memory n).verdicts
  rw [accepting.offer_eq, told.items] at verdicts
  have handled : ∀ kind, Turn.handled kind ((seed job received memory).after job n).turns =
      slots.countP (·.kind = kind) := by
    intro kind
    rw [← told.slots, List.countP_map]
    rfl
  have unended : ((seed job received memory).after job n).unended = 0 := by
    refine unended_of_idle ((sound_after job received memory n).flight_eq_none (by simp [finished]))
      fun failure refused => ?_
    cases cause_after job received memory n refused with
    | refusal turn item failure _ _ _ isRefused =>
      rw [verdicts] at isRefused
      obtain ⟨other, -, same⟩ := List.mem_map.mp (List.mem_of_getLast? isRefused)
      cases same
  have steps : ((seed job received memory).after job n).steps = slots.length := by
    have steps := counted.steps
    rw [unended, Nat.add_zero] at steps
    rw [← steps, ← told.slots, List.length_map]
  have requests := counted.requests.trans (handled .request)
  have responses := counted.responses.trans (handled .response)
  constructor
  case outcome => exact finished
  case calls => exact told.slots
  case offers =>
    rw [Journal.offers_eq_verdicts, ← Run.verdicts, verdicts, Handler.map_fst_acceptances]
  case accepted =>
    rw [Journal.accepted_eq_verdicts, ← Run.verdicts, verdicts, Handler.filter_acceptances,
      Handler.map_fst_acceptances]
  case steps => exact steps
  case requests => exact requests
  case responses => exact responses
  case summary =>
    rintro summary rfl
    obtain rfl := summary_of_success job received memory n finished
    have delivered := (delivered_after job received memory n).count
    rw [verdicts, Handler.countP_acceptances] at delivered
    have kinds := Turn.handled_add_handled ((seed job received memory).after job n).turns
    rw [handled, handled, ← List.length_map, told.slots, ← steps] at kinds
    exact ⟨kinds.symm, requests, responses, delivered⟩

/-- **A run settles as it has come out.** -/
theorem CameOut.settles
    (cameOut : CameOut result slots items ((seed job received memory).after job n)) :
    Settles job received memory (CameOut result slots items) :=
  settles_of_finished cameOut.outcome fun _ => ⟨cameOut.outcome, cameOut.calls, cameOut.offers,
    cameOut.accepted, cameOut.steps, cameOut.requests, cameOut.responses, cameOut.summary⟩

/-- What every state like that has. -/
theorem Settles.imp {P Q : Run T η → Prop} (settles : Settles job received memory P)
    (implies : ∀ run, P run → Q run) : Settles job received memory Q := by
  obtain ⟨⟨n, polled⟩, ended⟩ := settles
  exact ⟨⟨n, fun fuel polls enough often => implies _ (polled fuel polls enough often)⟩,
    fun n finished => implies _ (ended n finished)⟩

end Settling

end Run

end Relay
