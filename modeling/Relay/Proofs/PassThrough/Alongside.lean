import Mathlib.Data.List.Forall2
import Relay.Proofs.PassThrough.Blind
import Relay.Proofs.PassThrough.Detour
import Relay.Proofs.Run.Changes
import Relay.Proofs.Schedule

/-!
# Runs alongside each other

A run of a pipeline and its twin, the run of the pipeline with a stage inserted that forwards
everything. What waits in a queue of the run waits in that queue of the twin, or at the inserted
stage on the way there; apart from this and from what the inserted stage has done, nothing tells
them apart.

* `Run.Alongside` is this relation, without what the runs are about to do.
* `Run.next?_alongside` compares the next messages of both.
-/

namespace Relay

variable {T : Traffic} {η : Type} {k : Nat}

/-! ## (1) Turns and their twins -/

namespace Turn

/-- **A turn and its twin**: the same callback with the same message has sent the same. -/
structure Mirrored (k : Nat) (turn twin : Turn T) : Prop where
  stage : twin.call.stage = place k turn.call.stage
  message : twin.call.message = turn.call.message
  eop : twin.call.eop = turn.call.eop
  sent : twin.sent = turn.sent
  isRefused : twin.isRefused = turn.isRefused
  result : Option.Rel (Result.Alike turn.isRefused) turn.result twin.result

/-- **A turn that forwards its message**, and ends well. -/
structure IsForward (turn : Turn T) : Prop where
  accepted : turn.isRefused = false
  sent : turn.sent.map Outgoing.toMessage = if turn.result.isSome then [turn.call.message] else []
  result : ∀ result, turn.result = some result → result = .ok ()

/-- Such a turn has sent nothing before its end. -/
theorem IsForward.sent_eq_nil {turn : Turn T} (isForward : turn.IsForward)
    (underWay : turn.result = none) : turn.sent = [] := by
  have sent := isForward.sent
  rw [underWay] at sent
  exact List.map_eq_nil_iff.mp sent

/-- It forwards its message with its end. -/
theorem IsForward.ended {turn : Turn T} (isForward : turn.IsForward) (underWay : turn.result = none)
    {acts : List (Entry T)} {sending : Outgoing T} (sent : Journal.sent acts = [sending])
    (isMessage : sending.toMessage = turn.call.message)
    (notRefused : Journal.isRefused acts = false) :
    ((turn.extend acts).ended (.ok ())).IsForward := by
  refine ⟨?_, ?_, fun result isResult => (Option.some.inj isResult).symm⟩
  · show (turn.isRefused || Journal.isRefused acts) = false
    rw [isForward.accepted, notRefused]
    rfl
  · show (turn.sent ++ Journal.sent acts).map Outgoing.toMessage = [turn.call.message]
    rw [isForward.sent_eq_nil underWay, sent, ← isMessage]
    rfl

/-- The turns of all stages but the inserted one. -/
def others (k : Nat) (turns : List (Turn T)) : List (Turn T) :=
  turns.filter fun turn => turn.call.stage ≠ k

/-- **The number of messages of a kind** that the inserted stage has been called with. -/
def forwards (k : Nat) (kind : MessageKind) (turns : List (Turn T)) : Nat :=
  turns.countP fun turn => turn.call.stage = k ∧ turn.call.message.kind = kind

variable {turn : Turn T} {turns : List (Turn T)}

/-- A turn of the inserted stage is left out. -/
theorem others_cons_of_eq (here : turn.call.stage = k) :
    others k (turn :: turns) = others k turns := by
  simp [others, here]

/-- A turn of another stage is kept. -/
theorem others_cons_of_ne (elsewhere : turn.call.stage ≠ k) :
    others k (turn :: turns) = turn :: others k turns := by
  simp [others, elsewhere]

/-- A turn of another stage forwards nothing. -/
theorem forwards_cons_of_ne (elsewhere : turn.call.stage ≠ k) (kind : MessageKind) :
    forwards k kind (turn :: turns) = forwards k kind turns := by
  simp [forwards, elsewhere]

/-- What else happens in a turn does not make it forward more messages. -/
theorem forwards_cons_of_call_eq {late : Turn T} (same : late.call = turn.call)
    (kind : MessageKind) : forwards k kind (late :: turns) = forwards k kind (turn :: turns) := by
  simp [forwards, List.countP_cons, same]

/-- As many messages are forwarded as before if only the latest turn has gone on. -/
theorem forwards_eq_of_head {before after rest : List (Turn T)} {late : Turn T}
    (isBefore : before = turn :: rest) (isAfter : after = late :: rest)
    (same : late.call = turn.call) (kind : MessageKind) :
    forwards k kind after = forwards k kind before := by
  rw [isBefore, isAfter]
  exact forwards_cons_of_call_eq same kind

/-- A turn of the inserted stage forwards its message. -/
theorem forwards_cons_of_eq (here : turn.call.stage = k) (kind : MessageKind) :
    forwards k kind (turn :: turns) =
      forwards k kind turns + if turn.call.message.kind = kind then 1 else 0 := by
  by_cases own : turn.call.message.kind = kind <;> simp [forwards, here, own]

end Turn

/-! ## (2) Outcomes and their twins -/

/-- **The error of the longer pipeline**, which tells other places, steps and numbers of stages. -/
def RunError.withPass (k forwards : Nat) : RunError → RunError
  | starvation steps stageCount => starvation (steps + forwards) (stageCount + 1)
  | processor stage name kind source => processor (place k stage) name kind source
  | boundary stage name => boundary (place k stage) name
  | invalid definition => invalid definition
  | handler source => handler source
  | stepLimit limit => stepLimit limit

/-- **The summary of the longer pipeline**, which counts what the inserted stage has done. -/
def RunSummary.withPass (requests responses : Nat) (summary : RunSummary) : RunSummary :=
  { summary with
    stageCount := summary.stageCount + 1
    steps := summary.steps + (requests + responses)
    requestsProcessed := summary.requestsProcessed + requests
    responsesProcessed := summary.responsesProcessed + responses }

/-- **The outcome of the longer pipeline.** -/
def outcomeWithPass (k requests responses : Nat) :
    Except RunError RunSummary → Except RunError RunSummary
  | .ok summary => .ok (summary.withPass requests responses)
  | .error error => .error (error.withPass k (requests + responses))

namespace Run

/-! ## (3) Runs and their twins -/

/-- **The messages on the way to a queue** by the inserted stage: first the one that its callback is
about, then those that wait there. -/
def onDetour (k : Nat) (carried : List (Message T)) (twin : Run T η) (slot : Slot) :
    List (Message T) :=
  (slot.detour? k).elim [] fun detour =>
    carried.filter (·.kind = detour.kind) ++ twin.pendingAt detour

/-- **A run and its twin**, whatever they are about to do. The message carried is the one that the
inserted stage has been called with and has not sent on yet. -/
structure Alongside (job : Job T η) (k : Nat) (carried : List (Message T)) (run twin : Run T η) :
    Prop where
  queues : ∀ slot : Slot, slot.stage < job.pipeline.size →
    run.pendingAt slot = twin.pendingAt (slot.shift k) ++ onDetour k carried twin slot
  stages : ∀ {index stage}, run.stages[index]? = some stage →
    ∃ other, twin.stages[place k index]? = some other ∧ stage.Alike other
  eop : twin.eopReached = run.eopReached
  memory : twin.memory = run.memory
  received : twin.received = run.received
  delivered : twin.responsesDelivered = run.responsesDelivered
  verdicts : twin.verdicts = run.verdicts
  turns : List.Forall₂ (Turn.Mirrored k) (Turn.ofPast run.past)
    (Turn.others k (Turn.ofPast twin.past))
  forwards : ∀ turn ∈ Turn.ofPast twin.past, turn.call.stage = k → turn.IsForward
  steps : twin.steps + carried.length = run.steps +
    (Turn.forwards k .request (Turn.ofPast twin.past) +
      Turn.forwards k .response (Turn.ofPast twin.past))
  requests : twin.requestsProcessed =
    run.requestsProcessed + Turn.forwards k .request (Turn.ofPast twin.past)
  responses : twin.responsesProcessed =
    run.responsesProcessed + Turn.forwards k .response (Turn.ofPast twin.past)

/-- **Runs that differ only in what they are about to do**, and in reports. -/
structure Akin (run next : Run T η) : Prop where
  stages : next.stages = run.stages
  eop : next.eopReached = run.eopReached
  steps : next.steps = run.steps
  requests : next.requestsProcessed = run.requestsProcessed
  responses : next.responsesProcessed = run.responsesProcessed
  delivered : next.responsesDelivered = run.responsesDelivered
  received : next.received = run.received
  memory : next.memory = run.memory
  turns : Turn.ofPast next.past = Turn.ofPast run.past
  verdicts : next.verdicts = run.verdicts

namespace Akin

variable {job : Job T η} {run next : Run T η}

/-- The queues of runs that are akin. -/
theorem pendingAt (akin : Akin run next) (slot : Slot) :
    next.pendingAt slot = run.pendingAt slot := by
  rw [Run.pendingAt, Run.pendingAt, akin.stages]

/-- Reports make no difference. -/
theorem reporting (run : Run T η) (reports : Reports T) : Akin run (run.reporting reports) :=
  ⟨rfl, rfl, rfl, rfl, rfl, rfl, rfl, rfl, Turn.ofPast_reports reports run.past,
    verdicts_reporting run reports⟩

/-- Failing makes no difference. -/
theorem fail (job : Job T η) (run : Run T η) (error : RunError) :
    Akin run (run.fail job error) := by
  obtain ⟨reports, failed⟩ := run.fail_eq job error
  have akin := reporting run reports
  rw [failed]
  exact ⟨rfl, rfl, rfl, rfl, rfl, rfl, rfl, rfl, akin.turns, akin.verdicts⟩

end Akin

/-- **Runs stay alongside** whatever they are about to do. -/
theorem Alongside.of_akin {job : Job T η} {carried : List (Message T)}
    {run twin next other : Run T η} (along : Alongside job k carried run twin)
    (akin : Akin run next) (akin' : Akin twin other) :
    Alongside job k carried next other where
  queues slot within := by
    have detour : onDetour k carried other slot = onDetour k carried twin slot :=
      congrArg (Option.elim (slot.detour? k) []) (funext fun detour => by rw [akin'.pendingAt])
    rw [akin.pendingAt, akin'.pendingAt, detour]
    exact along.queues slot within
  stages found := by
    rw [akin.stages] at found
    rw [akin'.stages]
    exact along.stages found
  eop := by rw [akin.eop, akin'.eop, along.eop]
  memory := by rw [akin.memory, akin'.memory, along.memory]
  received := by rw [akin.received, akin'.received, along.received]
  delivered := by rw [akin.delivered, akin'.delivered, along.delivered]
  verdicts := by rw [akin.verdicts, akin'.verdicts, along.verdicts]
  turns := by
    rw [akin.turns, akin'.turns]
    exact along.turns
  forwards := by
    rw [akin'.turns]
    exact along.forwards
  steps := by rw [akin.steps, akin'.steps, akin'.turns, along.steps]
  requests := by rw [akin.requests, akin'.requests, akin'.turns, along.requests]
  responses := by rw [akin.responses, akin'.responses, akin'.turns, along.responses]

/-! ## (4) The beginning -/

variable {job : Job T η} {name : String} {carried : List (Message T)} {run twin : Run T η}

/-- **A stage and its twin are of the same make**, as they stand in their pipelines. -/
theorem make_alike (pos : 0 < k) (within : k < job.pipeline.size) (wired : Wired job run)
    (twinWired : Wired (job.withPass k name) twin) {index : Nat} {stage other : Stage T}
    (found : run.stages[index]? = some stage)
    (twinFound : twin.stages[place k index]? = some other) :
    other.processor = stage.processor ∧ other.runId = stage.runId ∧
      other.metadata = stage.metadata ∧ other.view.isFirst = stage.view.isFirst ∧
      other.isLast = stage.isLast := by
  obtain ⟨processor, hasProcessor, make⟩ := wired.exists_processor found
  obtain ⟨processor', hasProcessor', make'⟩ := twinWired.exists_processor twinFound
  have size := job.size_withPass within name
  have same : (job.withPass k name).pipeline.processor? (place k index) =
      job.pipeline.processor? index := Pipeline.processor?_withPass_place job.pipeline name index
  obtain rfl : processor = processor' := by
    rw [same, hasProcessor] at hasProcessor'
    exact Option.some.inj hasProcessor'
  have isProcessor : stage.processor = processor.name := congrArg Stage.processor make
  have isRunId : stage.runId = job.runId := congrArg Stage.runId make
  have isMetadata : stage.metadata = job.pipeline.metadata := congrArg Stage.metadata make
  refine ⟨?_, ?_, ?_, ?_, ?_⟩
  · rw [isProcessor]
    exact congrArg Stage.processor make'
  · rw [isRunId]
    exact congrArg Stage.runId make'
  · rw [isMetadata]
    exact congrArg Stage.metadata make'
  · show (other.index == 0) = (stage.index == 0)
    rw [wired.index_eq found, twinWired.index_eq twinFound]
    exact Bool.eq_iff_iff.mpr (by simpa using place_eq_zero_iff pos)
  · rw [wired.isLast_eq found, twinWired.isLast_eq twinFound, size]
    exact Bool.eq_iff_iff.mpr (by simpa using place_last_iff within)

/-- **Runs begin alongside their twins.** -/
theorem alongside_seed (pos : 0 < k) (within : k < job.pipeline.size) (name : String) (received : η)
    (memory : T.Memory) :
    Alongside job k [] (seed job received memory) (seed (job.withPass k name) received memory) where
  queues slot _ := by
    -- The request waits at the first stage, which no inserted stage comes before.
    have shifted : slot.shift k = ⟨0, .request⟩ ↔ slot = ⟨0, .request⟩ := by
      obtain ⟨stage, kind⟩ := slot
      simp [Slot.shift, place_eq_zero_iff pos]
    have nothing : onDetour k [] (seed (job.withPass k name) received memory) slot = [] := by
      unfold onDetour
      cases isDetour : slot.detour? k with
      | none => rfl
      | some detour =>
        have notFirst : k ≠ 0 := Nat.ne_of_gt pos
        rw [Slot.of_detour? isDetour]
        simp [pendingAt_seed, notFirst]
    rw [nothing, List.append_nil, pendingAt_seed, pendingAt_seed]
    exact if_congr shifted.symm rfl rfl
  stages := by
    intro index stage found
    have sound := sound_seed job received memory
    have twinSound := sound_seed (job.withPass k name) received memory
    have size := job.size_withPass within name
    obtain ⟨other, twinFound⟩ := twinSound.exists_stage (size ▸ (place_lt_succ_iff within).mpr
      (sound.lt_size found))
    obtain ⟨processor, runId, metadata, isFirst, isLast⟩ :=
      make_alike pos within sound.toWired twinSound.toWired found twinFound
    obtain ⟨data, eop, outbox, violation⟩ := of_getElem?_seed found
    obtain ⟨data', eop', outbox', violation'⟩ := of_getElem?_seed twinFound
    refine ⟨other, twinFound, ⟨processor, runId, metadata, data'.trans data.symm,
      outbox'.trans outbox.symm, ?_, eop'.trans eop.symm, violation'.trans violation.symm, isFirst,
      isLast⟩⟩
    rw [sound.caller found, twinSound.caller twinFound]
    exact if_congr (place_eq_zero_iff pos) rfl rfl
  eop := rfl
  memory := rfl
  received := rfl
  delivered := rfl
  verdicts := rfl
  turns := .nil
  forwards := by
    intro turn member
    cases member
  steps := rfl
  requests := rfl
  responses := rfl

/-! ## (5) The next message -/

/-- What waits on a detour waits at the inserted stage. -/
theorem pendingAt_of_onDetour {slot : Slot} (waits : onDetour k [] twin slot ≠ []) :
    slot.detour? k = some ⟨k, slot.kind⟩ ∧ twin.pendingAt ⟨k, slot.kind⟩ ≠ [] := by
  unfold onDetour at waits
  cases isDetour : slot.detour? k with
  | none => simp [isDetour] at waits
  | some detour =>
    obtain rfl := Slot.of_detour? isDetour
    rw [isDetour] at waits
    exact ⟨rfl, waits⟩

/-- A queue that is reached by a detour comes before all queues behind the inserted stage, and after
all of the stages before it. -/
theorem rank_le_of_detour? {slot other detour : Slot} (isDetour : other.detour? k = some detour)
    (before : slot.stage < k) : slot.rank ≤ other.rank := by
  refine Nat.le_of_not_lt fun less => ?_
  obtain ⟨stage, kind⟩ := other
  rcases Slot.rank_lt_iff.mp less with lower | ⟨same, earlier⟩
  · cases kind <;> simp only [Slot.detour?] at isDetour lower <;> split at isDetour <;>
      first | omega | cases isDetour
  · cases kind with
    | request =>
      simp only [Slot.detour?] at isDetour same
      split at isDetour
      · omega
      · cases isDetour
    | response =>
      simp only [MessageKind.rank] at earlier
      cases slot with
      | mk _ kind => cases kind <;> simp at earlier

/-- A queue that comes before one of the inserted stage belongs to a stage before it. -/
theorem lt_of_rank_shift_le {slot : Slot} {kind : MessageKind}
    (least : (slot.shift k).rank ≤ (⟨k, kind⟩ : Slot).rank) : slot.stage < k := by
  have elsewhere : place k slot.stage ≠ k := place_ne k slot.stage
  have notBehind : ¬ (⟨k, kind⟩ : Slot).rank < (slot.shift k).rank := Nat.not_lt.mpr least
  rw [Slot.rank_lt_iff, not_or] at notBehind
  have before : place k slot.stage < k :=
    Nat.lt_of_le_of_ne (Nat.le_of_not_lt notBehind.1) elsewhere
  unfold place at before
  split at before <;> omega

/-- **The next message of the run** is that of its twin, unless the inserted stage has something to
do first. -/
theorem next?_alongside (within : k < job.pipeline.size)
    (along : Alongside job k [] run twin) (wired : Wired job run)
    (twinWired : Wired (job.withPass k name) twin) :
    (twin.ready.next? = none ∧ run.ready.next? = none) ∨
      (∃ kind, twin.ready.next? = some ⟨k, kind⟩) ∨
        ∃ slot : Slot, twin.ready.next? = some (slot.shift k) ∧ run.ready.next? = some slot := by
  have inside : ∀ slot ∈ run.ready, slot.stage < job.pipeline.size := by
    intro slot ready
    obtain ⟨stage, -, -, -, found, -⟩ := wired.exists_popped ready
    exact wired.lt_size found
  -- What waits in the run waits in the twin as well, if perhaps on a detour.
  have waitsInTwin : ∀ slot ∈ run.ready, slot.shift k ∈ twin.ready ∨
      (slot.detour? k = some ⟨k, slot.kind⟩ ∧ (⟨k, slot.kind⟩ : Slot) ∈ twin.ready) := by
    intro slot ready
    have waits := (wired.ready slot).mp ready
    rw [along.queues slot (inside slot ready)] at waits
    by_cases here : twin.pendingAt (slot.shift k) = []
    · rw [here, List.nil_append] at waits
      obtain ⟨isDetour, waitsThere⟩ := pendingAt_of_onDetour waits
      exact .inr ⟨isDetour, (twinWired.ready _).mpr waitsThere⟩
    · exact .inl ((twinWired.ready _).mpr here)
  cases next : twin.ready.next? with
  | none =>
    have nothing := ReadyQueue.next?_eq_none_iff.mp next
    refine .inl ⟨rfl, ReadyQueue.next?_eq_none_iff.mpr fun slot ready => ?_⟩
    rcases waitsInTwin slot ready with here | ⟨-, onDetour⟩
    · exact nothing _ here
    · exact nothing _ onDetour
  | some slot =>
    obtain ⟨ready, least⟩ := ReadyQueue.next?_eq_some_iff.mp next
    by_cases here : slot.stage = k
    -- The inserted stage has something to do, and the run waits for it.
    · exact .inr (.inl ⟨slot.kind, by rw [← here]⟩)
    · obtain ⟨old, rfl⟩ := Slot.exists_shift here
      refine .inr (.inr ⟨old, rfl, ReadyQueue.next?_eq_some_iff.mpr ⟨?_, fun other isReady => ?_⟩⟩)
      · obtain ⟨stage, -, -, -, found, -⟩ := twinWired.exists_popped ready
        have size := job.size_withPass within name
        have old_lt : old.stage < job.pipeline.size :=
          (place_lt_succ_iff within).mp (size ▸ twinWired.lt_size found)
        rw [wired.ready, along.queues old old_lt]
        intro nothing
        exact (twinWired.ready _).mp ready (List.append_eq_nil_iff.mp nothing).1
      · -- What waits in the run at a place of its own keeps its rank; what is on a detour waits at
        -- the inserted stage, behind the chosen one, and is for a queue that comes no earlier.
        rcases waitsInTwin other isReady with direct | ⟨isDetour, onDetour⟩
        · exact Slot.rank_shift_le_iff.mp (least _ direct)
        · exact rank_le_of_detour? isDetour (lt_of_rank_shift_le (least _ onDetour))

end Run

end Relay
