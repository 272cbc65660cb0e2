import Mathlib.Logic.Function.Iterate
import Relay.Processor.Stock
import Relay.Proofs.Run.Calls

/-!
# Recording changes nothing

A recording processor notes down each of its calls before it does what the processor in it does. So
the run of a pipeline with recording processors is the run of the same pipeline without them, step
by step, but for the notes that stand in its journal behind each call.

* `Pipeline.recorded` has the processors of each stage in any number of recording ones.
* `Job.annotated` puts the notes into a journal, and `Run.Recorded` tells how the two runs
  differ at each step.
* `Run.recording_is_transparent` is the result.
-/

namespace Relay

open Processor (CallRecord CallLog)

variable {T : Traffic} {η : Type}

/-! ## (1) Recording processors -/

namespace Processor

variable (toNote : CallRecord → T.Note) (processor : Processor T) (count : Nat)

/-- A processor keeps its name in any number of recording ones. -/
@[simp] theorem name_recording_iterate :
    ((recording toNote)^[count] processor).name = processor.name := by
  induction count with
  | zero => rfl
  | succ count ih => rw [Function.iterate_succ_apply', ← ih]; rfl

/-- **A processor in recording ones notes each call down** as often as there are such, and then does
what it does. -/
theorem poll_recording_iterate (message : Message T) (scene : Callback.Scene T) :
    (((recording toNote)^[count] processor).handle message).poll scene =
      (processor.handle message).poll { scene with
        past := List.replicate count (.noted scene.stage.index (toNote ⟨processor.name,
          scene.stage.index, message.kind, message.isEop, scene.stage.runId⟩)) ++ scene.past } := by
  induction count generalizing scene with
  | zero => rfl
  | succ count ih =>
    -- The outermost recording processor is the first to note the call down.
    rw [Function.iterate_succ_apply', handle_recording, name_recording_iterate,
      List.replicate_succ', List.append_assoc]
    exact ih (scene.log _)

/-- **The log after some notes**: it gets the records among them. -/
def CallLog.fill (record? : T.Note → Option CallRecord) (log : CallLog) (notes : List T.Note) :
    CallLog :=
  (notes.filterMap record?).foldl CallLog.push log

/-- The records among the notes come after those that the log already has. -/
theorem CallLog.records_fill (record? : T.Note → Option CallRecord) (log : CallLog)
    (notes : List T.Note) :
    (log.fill record? notes).records = log.records ++ notes.filterMap record? := by
  rw [fill]
  generalize notes.filterMap record? = records
  induction records generalizing log with
  | nil => exact (List.append_nil _).symm
  | cons record rest ih => rw [List.foldl_cons, ih, push, List.append_assoc, List.singleton_append]

end Processor

/-- **The pipeline with its processors in recording ones**, as many at each stage as are asked
for. -/
def Pipeline.recorded (pipeline : Pipeline T) (toNote : CallRecord → T.Note)
    (wrappings : Nat → Nat) : Pipeline T where
  name := pipeline.name
  processors := pipeline.processors.mapIdx fun stage processor =>
    (Processor.recording toNote)^[wrappings stage] processor
  metadata := pipeline.metadata
  name_not_blank := pipeline.name_not_blank
  processors_ne_nil := by simpa using pipeline.processors_ne_nil

/-- The job for the pipeline with recording processors. -/
def Job.recorded (job : Job T η) (toNote : CallRecord → T.Note) (wrappings : Nat → Nat) :
    Job T η :=
  { job with pipeline := job.pipeline.recorded toNote wrappings }

/-- There are as many stages. -/
theorem Pipeline.size_recorded (pipeline : Pipeline T) (toNote : CallRecord → T.Note)
    (wrappings : Nat → Nat) : (pipeline.recorded toNote wrappings).size = pipeline.size :=
  List.length_mapIdx

/-- At each stage there is the same processor in recording ones. -/
theorem Pipeline.processor?_recorded (pipeline : Pipeline T) (toNote : CallRecord → T.Note)
    (wrappings : Nat → Nat) (stage : Nat) :
    (pipeline.recorded toNote wrappings).processor? stage =
      (pipeline.processor? stage).map ((Processor.recording toNote)^[wrappings stage]) :=
  List.getElem?_mapIdx

/-! ## (2) Notes in the journal -/

/-- **The record of a call** of a job. -/
def Job.recordOf (job : Job T η) (call : Call T) : CallRecord where
  processor := (job.pipeline.processor? call.stage).elim "" (·.name)
  stage := call.stage
  kind := call.message.kind
  eop := call.message.isEop
  runId := job.runId

/-- **What recording processors note down** of a call. -/
def Job.notesOf (job : Job T η) (toNote : CallRecord → T.Note) (wrappings : Nat → Nat)
    (call : Call T) : List (Entry T) :=
  List.replicate (wrappings call.stage) (.noted call.stage (toNote (job.recordOf call)))

/-- **The journal with the notes in it**, each behind the call that it is about. Both are given
latest first. -/
def Job.annotated (job : Job T η) (toNote : CallRecord → T.Note) (wrappings : Nat → Nat)
    (past : List (Entry T)) : List (Entry T) :=
  past.flatMap fun entry => entry.call?.elim [] (job.notesOf toNote wrappings) ++ [entry]

section Notes

variable (job : Job T η) (toNote : CallRecord → T.Note) (wrappings : Nat → Nat)

/-- Where no call is, there are no notes. -/
theorem Job.annotated_append_of_quiet {news : List (Entry T)}
    (quiet : news.filterMap Entry.call? = []) (past : List (Entry T)) :
    job.annotated toNote wrappings (news ++ past) =
      news ++ job.annotated toNote wrappings past := by
  rw [annotated, List.flatMap_append]
  congr 1
  have plain : ∀ entry ∈ news,
      entry.call?.elim [] (job.notesOf toNote wrappings) ++ [entry] = [entry] := by
    intro entry member
    rw [List.filterMap_eq_nil_iff.mp quiet entry member]
    rfl
  rw [List.flatMap_congr plain]
  exact List.flatMap_singleton' news

/-- The notes on a call stand behind it. -/
theorem Job.annotated_called (call : Call T) (past : List (Entry T)) :
    job.annotated toNote wrappings (.called call :: past) =
      job.notesOf toNote wrappings call ++ .called call :: job.annotated toNote wrappings past :=
  List.append_assoc ..

/-- In order, the notes on a call stand behind it as well. -/
theorem Job.reverse_annotated (past : List (Entry T)) :
    (job.annotated toNote wrappings past).reverse = past.reverse.flatMap fun entry =>
      entry :: entry.call?.elim [] (job.notesOf toNote wrappings) := by
  rw [annotated, List.reverse_flatMap]
  refine List.flatMap_congr fun entry _ => ?_
  cases entry with
  | called call => simp [Entry.call?, notesOf]
  | _ => rfl

/-- Without its notes, an annotated journal is the journal without its notes. -/
theorem Job.filter_annotated (past : List (Entry T)) :
    (job.annotated toNote wrappings past).filter (·.note?.isNone) =
      past.filter (·.note?.isNone) := by
  induction past with
  | nil => rfl
  | cons entry rest ih =>
    have plain : (entry.call?.elim [] (job.notesOf toNote wrappings)).filter (·.note?.isNone) =
        [] := by
      cases entry with
      | called call => simp [Entry.call?, Entry.note?, notesOf]
      | _ => rfl
    rw [annotated, List.flatMap_cons, ← annotated, List.filter_append, List.filter_append, plain,
      ih, List.nil_append, ← List.filter_append, List.singleton_append]

variable {toNote} {record? : T.Note → Option CallRecord}
  (reads : ∀ record, record? (toNote record) = some record)

include reads in
/-- **The records in an annotated journal**, if there have been none in the journal: each call has
as many as there are recording processors at its stage. -/
theorem Job.filterMap_notes_annotated {past : List (Entry T)}
    (free : ∀ note ∈ Journal.notes past.reverse, record? note = none) :
    (Journal.notes (job.annotated toNote wrappings past).reverse).filterMap record? =
      (Journal.calls past.reverse).flatMap fun call =>
        List.replicate (wrappings call.stage) (job.recordOf call) := by
  rw [job.reverse_annotated]
  generalize past.reverse = journal at free ⊢
  induction journal with
  | nil => rfl
  | cons entry rest ih =>
    rw [List.flatMap_cons, Journal.notes, List.filterMap_append, List.filterMap_append,
      ← Journal.notes, ← Journal.notes]
    cases entry with
    | called call =>
      have records : (Journal.notes (.called call :: job.notesOf toNote wrappings call)).filterMap
          record? = List.replicate (wrappings call.stage) (job.recordOf call) := by
        rw [Journal.notes, List.filterMap_cons_none rfl, notesOf, List.filterMap_filterMap]
        exact List.filterMap_replicate_of_some (reads _)
      exact congrArg₂ (· ++ ·) records (ih free)
    | noted stage note =>
      have other : record? note = none := free note List.mem_cons_self
      have nothing : (Journal.notes [.noted stage note]).filterMap record? = [] :=
        List.filterMap_cons_none other
      exact congrArg₂ (· ++ ·) nothing
        (ih fun later member => free later (List.mem_cons_of_mem _ member))
    | _ => exact ih free

end Notes

namespace Run

variable {job : Job T η} {run : Run T η}

/-! ## (3) Two runs side by side -/

/-- The run with the notes in its journal. -/
def noting (job : Job T η) (toNote : CallRecord → T.Note) (wrappings : Nat → Nat) (run : Run T η) :
    Run T η :=
  { run with past := job.annotated toNote wrappings run.past }

/-- **How the run of recording processors differs** from the run of the processors in them: in the
notes of its journal, and in a callback that has been started and not been polled yet, which has
still to note its call down. -/
inductive Recorded (job : Job T η) (toNote : CallRecord → T.Note) (wrappings : Nat → Nat)
    (run : Run T η) : Run T η → Prop where
  | between : Recorded job toNote wrappings run (run.noting job toNote wrappings)
  | begun (slot : Slot) (processor : Processor T) (call : Call T) (earlier : List (Entry T))
      (past : run.past = .called call :: earlier) (place : call.stage = slot.stage)
      (isFlight : run.flight = some ⟨slot, processor.name, processor.handle call.message⟩)
      (hasProcessor : job.pipeline.processor? slot.stage = some processor)
      (awake : run.isWaiting = false) :
      Recorded job toNote wrappings run { run with
        past := .called call :: job.annotated toNote wrappings earlier
        flight := some ⟨slot, processor.name,
          ((Processor.recording toNote)^[wrappings slot.stage] processor).handle call.message⟩ }

/-- No callback is started while one is in flight, nor before a message has been chosen. -/
theorem map_call_step (sound : Sound job run)
    (notStarting : run.state = .delivering → run.flight ≠ none) :
    (Turn.ofPast (run.step job).past).map (·.call) = (Turn.ofPast run.past).map (·.call) := by
  cases isFlight : run.flight with
  | some flight =>
    obtain ⟨stage, turn, late, earlier, acts, acted⟩ :=
      exists_late sound.awake (move_step sound) isFlight
    have before : Turn.ofPast run.past = turn :: earlier := acted.engaged.turns
    rw [acted.turns, before, List.map_cons, List.map_cons, acted.call]
  | none =>
    rcases opened_of_move (move_step sound) isFlight with ⟨-, -, turns⟩ |
      ⟨slot, stage, processor, message, rest, -, -, -, opened⟩
    · rw [turns]
      rfl
    · have started := chosen_of_started sound isFlight (congrArg Run.flight opened)
      exact absurd isFlight (notStarting started.1)

section Steps

variable (toNote : CallRecord → T.Note) (wrappings : Nat → Nat)

/-- Both runs begin alike. -/
theorem seed_recorded (job : Job T η) (received : η) (memory : T.Memory) :
    seed (job.recorded toNote wrappings) received memory = seed job received memory := by
  have stages : freshStages (job.recorded toNote wrappings) = freshStages job := by
    have size : (job.recorded toNote wrappings).pipeline.size = job.pipeline.size :=
      job.pipeline.size_recorded toNote wrappings
    rw [freshStages, freshStages, size]
    refine (List.mapIdx_mapIdx ..).trans (congrArg (List.mapIdx · _) ?_)
    funext stage processor
    simp only [Function.comp_apply, Processor.name_recording_iterate]
    rfl
  rw [seed, seed, stages]
  rfl

/-- Both runs are announced alike. -/
theorem announce_recorded (job : Job T η) (run : Run T η) :
    run.announce (job.recorded toNote wrappings) = run.announce job := by
  have size : (job.recorded toNote wrappings).pipeline.size = job.pipeline.size :=
    job.pipeline.size_recorded toNote wrappings
  simp only [announce, startedEvent, size]
  rfl

/-- A callback in flight is polled alike. -/
theorem pollFlight_recorded (run : Run T η) (flight : Flight T) :
    run.pollFlight (job.recorded toNote wrappings) flight = run.pollFlight job flight := by
  refine pollFlight_congr ?_ ?_ run flight
  · rfl
  · exact fun _ _ => rfl

/-- **It only matters that processors record** when a callback is started. -/
theorem step_job_recorded (notStarting : run.state = .delivering → run.flight ≠ none) :
    run.step (job.recorded toNote wrappings) = run.step job := by
  rw [step_eq, step_eq]
  cases state : run.state with
  | seeded =>
    exact congrArg (Run.become · .running) (announce_recorded toNote wrappings job run.awake)
  | running => rfl
  | delivering =>
    cases isFlight : run.flight with
    | none => exact absurd isFlight (notStarting state)
    | some flight =>
      exact pollFlight_recorded toNote wrappings run.awake flight
  | terminated => rfl
  | failed => rfl

/-- **A step that starts no callback** does the same to the run with notes in its journal. -/
theorem step_noting (sound : Sound job run)
    (notStarting : run.state = .delivering → run.flight ≠ none) :
    (run.noting job toNote wrappings).step job = (run.step job).noting job toNote wrappings := by
  have calls := map_call_step sound notStarting
  have own : Sound job (run.anew.onto run.past) := sound
  have plain : run.step job = (run.anew.step job).onto run.past := step_onto own run.past
  have noted : (run.noting job toNote wrappings).step job =
      (run.anew.step job).onto (job.annotated toNote wrappings run.past) := step_onto own _
  have quiet : (run.anew.step job).past.filterMap Entry.call? = [] := by
    rw [plain, Turn.map_call_ofPast, Turn.map_call_ofPast, onto, recast, List.filterMap_append]
      at calls
    exact List.append_left_eq_self.mp calls
  rw [noted, plain, noting, onto, onto, recast, recast]
  simp only [job.annotated_append_of_quiet toNote wrappings quiet]

/-- **Callbacks that a poll leaves alike** are done with alike, whatever stands in the journals. -/
theorem pollFlight_of_poll_eq {twin : Run T η} {flight other : Flight T} {stage : Stage T}
    (alike : twin = { run with past := twin.past, flight := twin.flight })
    (found : run.stages[flight.slot.stage]? = some stage) (slot : other.slot = flight.slot)
    (name : other.processor = flight.processor)
    (same : other.callback.poll ⟨stage, run.memory, twin.past⟩ =
      flight.callback.poll ⟨stage, run.memory, run.past⟩) :
    twin.pollFlight job other = run.pollFlight job flight := by
  obtain ⟨place, processor, first⟩ := flight
  obtain ⟨_, _, second⟩ := other
  cases slot
  cases name
  let last : Flight T := ⟨place, processor, second⟩
  rcases polled : first.poll ⟨stage, run.memory, run.past⟩ with ⟨status, scene⟩
  have foundTwin : twin.stages[last.slot.stage]? = some stage :=
    congrArg Run.stages alike ▸ found
  have polledTwin : last.callback.poll ⟨stage, twin.memory, twin.past⟩ = (status, scene) :=
    congrArg Run.memory alike ▸ same.trans polled
  cases verdict : (job.handler.offer run.received scene.stage.callerQueue).2.2 with
  | some failure =>
    have verdictTwin := congrArg Run.received alike ▸ verdict
    rw [pollFlight_of_refused found polled verdict,
      pollFlight_of_refused foundTwin polledTwin verdictTwin, alike]
    rfl
  | none =>
    have verdictTwin := congrArg Run.received alike ▸ verdict
    cases status with
    | waiting rest =>
      rw [pollFlight_of_waiting found polled verdict,
        pollFlight_of_waiting foundTwin polledTwin verdictTwin, alike]
      rfl
    | finished result =>
      rw [pollFlight_of_finished found polled verdict,
        pollFlight_of_finished foundTwin polledTwin verdictTwin, alike]
      rfl

variable {toNote wrappings} {next : Run T η}

/-- **A callback that is started** has still to note its call down. -/
theorem recorded_of_chosen (sound : Sound job run) (state : run.state = .delivering)
    (idle : run.flight = none) :
    Recorded job toNote wrappings (run.step job)
      ((run.noting job toNote wrappings).step (job.recorded toNote wrappings)) := by
  obtain ⟨slot, current, ready, -⟩ := sound.exists_chosen state idle
  obtain ⟨stage, processor, message, rest, found, hasProcessor, popped⟩ :=
    sound.exists_popped ready
  obtain ⟨recording, isRecording⟩ :
      ∃ recording, (Processor.recording toNote)^[wrappings slot.stage] processor = recording :=
    ⟨_, rfl⟩
  have name : recording.name = processor.name :=
    isRecording ▸ processor.name_recording_iterate toNote _
  have started : run.awake.start job slot = run.awake.opened slot processor message rest :=
    start_eq found hasProcessor popped
  have hasRecording : (job.recorded toNote wrappings).pipeline.processor? slot.stage =
      some recording := by
    rw [Job.recorded, Pipeline.processor?_recorded, hasProcessor, Option.map_some, isRecording]
  have startedToo : (run.noting job toNote wrappings).awake.start (job.recorded toNote wrappings)
      slot = (run.noting job toNote wrappings).awake.opened slot recording message rest :=
    start_eq found hasRecording popped
  have step : (run.noting job toNote wrappings).step (job.recorded toNote wrappings) = _ :=
    step_of_chosen state idle current
  have begun : Recorded job toNote wrappings (run.awake.opened slot processor message rest) _ :=
    .begun slot processor (rest.callFor slot.stage message) _ rfl rfl rfl hasProcessor rfl
  rw [step_of_chosen state idle current, step, started, startedToo]
  simp only [opened, name]
  simp only [opened, isRecording] at begun
  exact begun

/-- **A callback that is polled for the first time** notes its call down, and goes on like the one
that does not. -/
theorem step_of_begun (sound : Sound job run) {slot : Slot} {processor : Processor T}
    {call : Call T} {earlier : List (Entry T)} (past : run.past = .called call :: earlier)
    (place : call.stage = slot.stage)
    (isFlight : run.flight = some ⟨slot, processor.name, processor.handle call.message⟩)
    (hasProcessor : job.pipeline.processor? slot.stage = some processor)
    (isNext : next = { run with
        past := .called call :: job.annotated toNote wrappings earlier
        flight := some ⟨slot, processor.name,
          ((Processor.recording toNote)^[wrappings slot.stage] processor).handle call.message⟩ }) :
    next.step (job.recorded toNote wrappings) = (run.step job).noting job toNote wrappings := by
  obtain ⟨state, outcome, current⟩ := sound.inFlight isFlight
  obtain ⟨stage, turn, before, engaged⟩ := sound.engaged _ isFlight
  have found : run.stages[slot.stage]? = some stage := engaged.found
  obtain ⟨other, isOther, blank⟩ := sound.toWired.exists_processor found
  obtain rfl := Option.some.inj (hasProcessor.symm.trans isOther)
  have notStarting : run.state = .delivering → run.flight ≠ none := by simp [isFlight]
  have stateNext : next.state = .delivering := by rw [isNext]; exact state
  have isFlightNext : next.flight = some ⟨slot, processor.name,
      ((Processor.recording toNote)^[wrappings slot.stage] processor).handle call.message⟩ := by
    rw [isNext]
  have record : job.recordOf call = ⟨processor.name, stage.index, call.message.kind,
      call.message.isEop, stage.runId⟩ := by
    have name : (job.pipeline.processor? call.stage).elim "" (·.name) = processor.name := by
      rw [place, hasProcessor]
      rfl
    have index : call.stage = stage.index := place.trans (sound.toWired.index_eq found).symm
    have runId : job.runId = stage.runId := (congrArg Stage.runId blank).symm
    rw [Job.recordOf, name, index, runId]
  have index : slot.stage = stage.index := (sound.toWired.index_eq found).symm
  have pastNext : next.past = .called call :: job.annotated toNote wrappings earlier := by
    rw [isNext]
  have pastNoting : (run.noting job toNote wrappings).past =
      job.notesOf toNote wrappings call ++ next.past := by
    rw [pastNext, ← Job.annotated_called, ← past]
    rfl
  -- What the first poll notes down is what stands behind the call in the annotated journal.
  have polled : (((Processor.recording toNote)^[wrappings slot.stage] processor).handle
      call.message).poll ⟨stage, run.memory, next.past⟩ =
        (processor.handle call.message).poll
          ⟨stage, run.memory, (run.noting job toNote wrappings).past⟩ := by
    rw [Processor.poll_recording_iterate, pastNoting, Job.notesOf, record, place, index]
  have alike : pollFlight job next.awake ⟨slot, processor.name, ((Processor.recording
      toNote)^[wrappings slot.stage] processor).handle call.message⟩ =
        pollFlight job (run.noting job toNote wrappings).awake
          ⟨slot, processor.name, processor.handle call.message⟩ := by
    refine pollFlight_of_poll_eq ?_ found rfl rfl polled
    rw [isNext]
    rfl
  have plain : (run.noting job toNote wrappings).step job = _ := step_of_inFlight state isFlight
  rw [step_of_inFlight stateNext isFlightNext, ← step_noting toNote wrappings sound notStarting,
    plain, ← alike]
  exact pollFlight_recorded toNote wrappings _ _

/-- **Side by side both runs take the same step.** -/
theorem Recorded.step (sound : Sound job run) (recorded : Recorded job toNote wrappings run next) :
    Recorded job toNote wrappings (run.step job) (next.step (job.recorded toNote wrappings)) := by
  cases recorded with
  | between =>
    by_cases starting : run.state = .delivering ∧ run.flight = none
    · exact recorded_of_chosen sound starting.1 starting.2
    · have notStarting : run.state = .delivering → run.flight ≠ none :=
        fun state idle => starting ⟨state, idle⟩
      have same : (run.noting job toNote wrappings).step (job.recorded toNote wrappings) =
          (run.noting job toNote wrappings).step job :=
        step_job_recorded toNote wrappings notStarting
      rw [same, step_noting toNote wrappings sound notStarting]
      exact .between
  | begun slot processor call earlier past place isFlight hasProcessor awake =>
    rw [step_of_begun sound past place isFlight hasProcessor rfl]
    exact .between

/-- **In every state that they come to**, both runs differ in notes only. -/
theorem recorded_after (job : Job T η) (received : η) (memory : T.Memory) (n : Nat) :
    Recorded job toNote wrappings ((seed job received memory).after job n)
      ((seed (job.recorded toNote wrappings) received memory).after
        (job.recorded toNote wrappings) n) := by
  induction n with
  | zero =>
    rw [seed_recorded]
    exact .between
  | succ n ih => exact ih.step (sound_after job received memory n)

end Steps

/-! ## (4) The result -/

/-- Side by side, both runs are alike but for their journals and the rest of a callback. -/
theorem Recorded.eq_but {toNote : CallRecord → T.Note} {wrappings : Nat → Nat} {next : Run T η}
    (recorded : Recorded job toNote wrappings run next) :
    next = { run with past := next.past, flight := next.flight } ∧
    next.past.filter (·.note?.isNone) = run.past.filter (·.note?.isNone) ∧
    (run.flight = none ∨ run.isWaiting = true → next = run.noting job toNote wrappings) := by
  cases recorded with
  | between => exact ⟨rfl, job.filter_annotated toNote wrappings run.past, fun _ => rfl⟩
  | begun slot processor call earlier past place isFlight hasProcessor awake =>
    refine ⟨rfl, ?_, ?_⟩
    · rw [past]
      exact congrArg (Entry.called call :: ·) (job.filter_annotated toNote wrappings earlier)
    · rintro (idle | waits)
      · exact absurd (idle.symm.trans isFlight) nofun
      · exact absurd (awake.symm.trans waits) nofun

/-- **Recording processors change nothing and note everything down.** Have the processors of any
pipeline in recording ones, as many at each stage as you like. Then, step by step,

* the run has the same state, stages, counts and outcome, and what its handler and its processors
  remember is the same;
* its journal has the same entries in the same order, notes aside;
* wherever a callback has ended or pauses, the callback that pauses is the same, and the notes stand
  right behind the calls that they are about.

If nobody else writes to the log, it has then got one record for each call from each of the
recording processors at its stage, in order. -/
theorem recording_is_transparent (job : Job T η) (toNote : CallRecord → T.Note)
    (record? : T.Note → Option CallRecord) (reads : ∀ record, record? (toNote record) = some record)
    (wrappings : Nat → Nat) (received : η) (memory : T.Memory) (log : CallLog) (n : Nat) :
    let plain := (seed job received memory).after job n
    let recorded := (seed (job.recorded toNote wrappings) received memory).after
      (job.recorded toNote wrappings) n
    let filled := log.fill record? (Journal.notes recorded.journal)
    recorded = { plain with past := recorded.past, flight := recorded.flight } ∧
    recorded.journal.filter (·.note?.isNone) = plain.journal.filter (·.note?.isNone) ∧
    (plain.isFinished = true → plain.flight = none) ∧
    (plain.flight = none ∨ plain.isWaiting = true →
      recorded.flight = plain.flight ∧
      recorded.journal = plain.journal.flatMap (fun entry =>
        entry :: entry.call?.elim [] (job.notesOf toNote wrappings)) ∧
      ((∀ note ∈ Journal.notes plain.journal, record? note = none) →
        filled.records = log.records ++ (Journal.calls plain.journal).flatMap (fun call =>
          List.replicate (wrappings call.stage) (job.recordOf call)) ∧
        filled.trace = log.trace ++ (Journal.calls plain.journal).flatMap fun call =>
          List.replicate (wrappings call.stage) (call.stage, call.message.kind))) := by
  intro plain recorded filled
  have isRecorded : Recorded job toNote wrappings plain recorded :=
    recorded_after job received memory n
  obtain ⟨alike, entries, rested⟩ := isRecorded.eq_but
  refine ⟨alike, ?_, ?_, fun rests => ?_⟩
  · simpa [journal, List.filter_reverse] using entries
  · cases isFlight : plain.flight with
    | none => exact fun _ => rfl
    | some flight =>
      have unfinished : plain.outcome = none :=
        ((sound_after job received memory n).inFlight isFlight).2.1
      simp [isFinished, unfinished]
  · have same : recorded = plain.noting job toNote wrappings := rested rests
    refine ⟨by rw [same]; rfl, ?_, fun free => ?_⟩
    · rw [same]
      exact job.reverse_annotated toNote wrappings plain.past
    · have records : filled.records =
          log.records ++ (Journal.calls plain.journal).flatMap fun call =>
            List.replicate (wrappings call.stage) (job.recordOf call) := by
        rw [CallLog.records_fill, same]
        exact congrArg (log.records ++ ·) (job.filterMap_notes_annotated wrappings reads free)
      refine ⟨records, ?_⟩
      rw [CallLog.trace, records, List.map_append, List.map_flatMap]
      simp only [List.map_replicate]
      rfl

/-! ## (5) An example -/

/-- Numbers, with the notes of recording processors. -/
@[reducible] def loggedNumbers : Traffic where
  Request := Nat
  Response := Nat
  Kind := Empty
  Value := nofun
  Note := CallRecord

/-- A job for two stages, the first of which fails on the answer of the last one. -/
def question : Job loggedNumbers (List Nat) where
  pipeline :=
    { name := "question"
      processors := [.failing "front" .response "no", .terminal (fun item => .nat item) "back" [5]]
      metadata := {}
      name_not_blank := by decide
      processors_ne_nil := by simp }
  request := (3 : Nat)
  handler := .collecting
  runId := ⟨7⟩
  startedAt := ⟨⟨2024, 1, 1⟩, 0, 0⟩
  durationMs := 0

/-- **A log shared by both stages**, the second of which has its processor in two recording ones.
The callback that fails is in it. -/
theorem trace_of_question :
    let wrappings := fun stage => stage + 1
    let recorded := (seed (question.recorded id wrappings) [] ()).after
      (question.recorded id wrappings) 20
    (∀ record : CallRecord, some (id record) = some record) ∧
    recorded.outcome = some (.error (.processor 0 "front" .response ⟨"no", []⟩)) ∧
    (CallLog.mk [] |>.fill some (Journal.notes recorded.journal)).trace =
      [(0, .request), (1, .request), (1, .request), (0, .response)] := by
  intro wrappings recorded
  have reads : ∀ record : CallRecord, some (id record) = some record := fun _ => rfl
  have silent : Journal.notes ((seed question [] ()).after question 20).journal = [] := rfl
  obtain ⟨alike, -, idle, rested⟩ :=
    recording_is_transparent question id some reads wrappings [] () ⟨[]⟩ 20
  obtain ⟨-, -, logged⟩ := rested (.inl (idle rfl))
  refine ⟨reads, (congrArg Run.outcome alike).trans rfl, (logged fun note member => ?_).2⟩
  rw [silent] at member
  exact absurd member List.not_mem_nil

end Run

end Relay
