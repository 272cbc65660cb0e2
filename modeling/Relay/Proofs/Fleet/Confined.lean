import Relay.Proofs.Run.Soundness

/-!
# Confined processors

A processor is confined if it passes nothing on from one run to another: it neither consults nor
changes what processors remember outside their stages, and the records of calls that it notes down
name the run under way. With such processors a run leaves the memory as it is, and whatever in its
journal names a run names this one.

* `Callback.Confined` and `Processor.IsConfined` say which processors are confined.
* `Run.confined_after` says what it comes to for runs.
-/

namespace Relay

open Processor (CallRecord)

variable {T : Traffic} {η : Type} {α : Type}

/-! ## (1) What names a run -/

/-- **The run that an event tells of**, by the text of its identifier. -/
def Event.runId? (event : Event) : Option String :=
  match event.data.bind (·.get? "run_id") with
  | some (.text content) => some content
  | _ => none

/-- **An entry that names no other run**: a record of a call is one of the run, and so is an event.
The records of calls are among the notes, where they are found by `record?`. -/
def Entry.IsOf (record? : T.Note → Option CallRecord) (id : RunId) : Entry T → Prop
  | noted _ note => ∀ record, record? note = some record → record.runId = id
  | emitted event => event.runId? = some id.text
  | _ => True

/-! ## (2) Callbacks -/

namespace Callback

/-- **A confined callback** of a run. -/
def Confined (record? : T.Note → Option CallRecord) (id : RunId) : Callback T α → Prop
  | done _ => True
  | fail _ => True
  | pause next => next.Confined record? id
  | look next => ∀ view, view.runId = id → (next view).Confined record? id
  | keep _ next => next.Confined record? id
  | sendRequest _ next => ∀ result, (next result).Confined record? id
  | sendReply _ next => next.Confined record? id
  | note entry next =>
    (∀ record, record? entry = some record → record.runId = id) ∧ next.Confined record? id
  | consult _ => False
  | remember _ _ => False

/-- **A scene of a run**: its stage is one of the run, its journal names no other, and the memory is
the one from the beginning. -/
structure Scene.IsOf (record? : T.Note → Option CallRecord) (id : RunId) (memory : T.Memory)
    (scene : Scene T) : Prop where
  memory : scene.memory = memory
  runId : scene.stage.runId = id
  past : ∀ entry ∈ scene.past, entry.IsOf record? id

variable {record? : T.Note → Option CallRecord} {id : RunId} {memory : T.Memory} {scene : Scene T}

namespace Scene.IsOf

/-- An entry that names no other run joins the journal. -/
theorem log (isOf : scene.IsOf record? id memory) {entry : Entry T}
    (entryIsOf : entry.IsOf record? id) : (scene.log entry).IsOf record? id memory where
  memory := isOf.memory
  runId := isOf.runId
  past := List.forall_mem_cons.mpr ⟨entryIsOf, isOf.past⟩

/-- A request names no run. -/
theorem sendRequest (isOf : scene.IsOf record? id memory) (request : T.Request) :
    (scene.sendRequest request).2.IsOf record? id memory := by
  cases last : scene.stage.isLast with
  | true =>
    have sent := Stage.sendRequest_of_isLast last request
    refine ⟨isOf.memory, ?_, ?_⟩
    · simpa [Scene.sendRequest, sent, Stage.acted] using isOf.runId
    · simpa [Scene.sendRequest, sent, Entry.IsOf] using isOf.past
  | false =>
    have sent := Stage.sendRequest_of_not_isLast last request
    refine ⟨isOf.memory, ?_, ?_⟩
    · simpa [Scene.sendRequest, sent, Stage.acted] using isOf.runId
    · simpa [Scene.sendRequest, sent, Entry.IsOf] using isOf.past

/-- Nor does a reply, nor the warning about a late one. -/
theorem sendReply (isOf : scene.IsOf record? id memory) (reply : Reply T.Response) :
    (scene.sendReply reply).IsOf record? id memory := by
  refine ⟨isOf.memory, ?_, ?_⟩
  · simpa [Scene.sendReply, Stage.sendReply_eq_acted, Stage.acted] using isOf.runId
  · cases late : scene.stage.eop <;>
      simpa [Scene.sendReply, late, Entry.IsOf] using isOf.past

end Scene.IsOf

/-- **A poll of a confined callback** keeps the scene one of the run, and what is left of the
callback confined. -/
theorem isOf_poll {callback : Callback T α} (confined : callback.Confined record? id)
    (isOf : scene.IsOf record? id memory) :
    (callback.poll scene).2.IsOf record? id memory ∧
      ∀ rest, (callback.poll scene).1 = .waiting rest → rest.Confined record? id := by
  induction callback generalizing scene with
  | done _ => exact ⟨isOf, fun _ waiting => by cases waiting⟩
  | fail _ => exact ⟨isOf, fun _ waiting => by cases waiting⟩
  | pause next =>
    refine ⟨isOf.log trivial, fun rest waiting => ?_⟩
    cases waiting
    exact confined
  | look _ ih => exact ih _ (confined _ isOf.runId) isOf
  | keep data _ ih => exact ih confined ⟨isOf.memory, isOf.runId, isOf.past⟩
  | sendRequest request _ ih => exact ih _ (confined _) (isOf.sendRequest request)
  | sendReply reply _ ih => exact ih confined (isOf.sendReply reply)
  | note entry _ ih => exact ih confined.2 (isOf.log confined.1)
  | consult _ => exact confined.elim
  | remember _ _ => exact confined.elim

end Callback

/-! ## (3) Processors -/

namespace Processor

/-- **A confined processor.** -/
def IsConfined (record? : T.Note → Option CallRecord) (processor : Processor T) : Prop :=
  ∀ id message, (processor.handle message).Confined record? id

/-- **To record the calls of a processor does not open it up**: each record names the run that the
processor finds in its stage. -/
theorem IsConfined.recording {record? : T.Note → Option CallRecord} {processor : Processor T}
    (confined : processor.IsConfined record?) (toNote : CallRecord → T.Note)
    (isRecord : ∀ record, record? (toNote record) = some record) :
    (Processor.recording toNote processor).IsConfined record? := by
  intro id message
  rw [handle_recording]
  refine fun view isOf => ⟨fun record recorded => ?_, confined id message⟩
  obtain rfl := Option.some.inj ((isRecord _).symm.trans recorded)
  exact isOf

end Processor

/-! ## (4) Runs -/

namespace Run

/-- **A run to itself**: the memory is the one from the beginning, the journal names no other run,
and what the callback in flight has still to do is confined. -/
structure Confined (record? : T.Note → Option CallRecord) (job : Job T η) (memory : T.Memory)
    (run : Run T η) : Prop where
  memory : run.memory = memory
  past : ∀ entry ∈ run.past, entry.IsOf record? job.runId
  flight : ∀ flight, run.flight = some flight → flight.callback.Confined record? job.runId

variable {record? : T.Note → Option CallRecord} {job : Job T η} {memory : T.Memory} {run : Run T η}

namespace Confined

/-- An entry that names no other run joins the journal. -/
theorem log (confined : Confined record? job memory run) (entry : Entry T)
    (isOf : entry.IsOf record? job.runId) : Confined record? job memory (run.log entry) where
  memory := confined.memory
  past := List.forall_mem_cons.mpr ⟨isOf, confined.past⟩
  flight := confined.flight

/-- Changes of state name no run. -/
theorem become (confined : Confined record? job memory run) (next : RunState) :
    Confined record? job memory (run.become next) where
  memory := confined.memory
  past := (confined.log (.logged (.transition run.state next)) trivial).past
  flight := confined.flight

/-- **Events that name the run** go to the sink; what the sink records of them names none. -/
theorem emit (confined : Confined record? job memory run) {event : Event}
    (isOf : event.runId? = some job.runId.text) :
    Confined record? job memory (run.emit job event) := by
  unfold Run.emit
  split
  · have record (records : List Log.Record) (run : Run T η)
        (emitted : Confined record? job memory run) :
        Confined record? job memory (records.foldl Run.record run) := by
      induction records generalizing run with
      | nil => exact emitted
      | cons first _ ih => exact ih (run.record first) (emitted.log (.logged first) trivial)
    exact record _ _ (confined.log (.emitted event) isOf)
  · exact confined

/-- Runs are announced by name. -/
theorem announce (confined : Confined record? job memory run) :
    Confined record? job memory (run.announce job) :=
  (confined.emit (show (startedEvent job).runId? = _ from rfl)).log _ trivial

/-- Runs succeed by name. -/
theorem succeed (confined : Confined record? job memory run) :
    Confined record? job memory (run.succeed job) := by
  let summary := (run.become .terminated).summary job
  have reported : Confined record? job memory ((run.become .terminated).record (.completed
      summary.runId summary.pipeline summary.steps summary.responsesDelivered
      summary.durationMs)) := (confined.become .terminated).log _ trivial
  have emitted := reported.emit
    (show (⟨Event.completedType, some summary.payload⟩ : Event).runId? = _ from rfl)
  exact ⟨emitted.memory, emitted.past, emitted.flight⟩

/-- **Runs fail by name**, whatever becomes of the callback in flight. -/
theorem fail (sameMemory : run.memory = memory)
    (past : ∀ entry ∈ run.past, entry.IsOf record? job.runId) (error : RunError) :
    Confined record? job memory (run.fail job error) := by
  have dropped : Confined record? job memory { run with flight := none } :=
    ⟨sameMemory, past, fun _ isFlight => by cases isFlight⟩
  have reported := (dropped.become .failed).log
    (.logged (.failed job.runId job.pipeline.name run.steps error)) trivial
  have emitted := reported.emit (show (failedEvent job run error).runId? = _ from rfl)
  exact ⟨emitted.memory, emitted.past, emitted.flight⟩

/-- The way of one message names no run. -/
theorem routeOne (confined : Confined record? job memory run) (sender : Nat)
    (message : Outgoing T) : Confined record? job memory (run.routeOne job sender message).2 := by
  cases message with
  | request request => exact ⟨confined.memory, confined.past, confined.flight⟩
  | response reply =>
    by_cases notFirst : 0 < sender
    · simp only [Run.routeOne, notFirst, if_true]
      exact ⟨confined.memory, confined.past, confined.flight⟩
    · cases reply with
      | item item =>
        rcases handled : job.handler.handle run.received item with ⟨received, result⟩
        have offered := confined.log (.offered item result) trivial
        simp only [Run.routeOne, notFirst, if_false, handled]
        cases result <;> exact ⟨offered.memory, offered.past, offered.flight⟩
      | eop =>
        simp only [Run.routeOne, notFirst, if_false]
        have told := confined.log (.logged (.eopReached run.steps)) trivial
        exact ⟨told.memory, told.past, told.flight⟩

/-- **Routing names no run.** -/
theorem routeAll (confined : Confined record? job memory run) (sender : Nat)
    (sent : List (Outgoing T)) :
    Confined record? job memory (run.routeAll job sender sent).2 := by
  induction sent generalizing run with
  | nil => exact confined
  | cons message _ ih =>
    have first := confined.routeOne sender message
    unfold Run.routeAll
    split <;> rename_i routed <;> rw [routed] at first
    · exact ih first
    · exact first

/-- So the outbox of a stage is emptied and no run is named. -/
theorem route (confined : Confined record? job memory run) (sender : Nat) :
    Confined record? job memory (run.route job sender) := by
  have cleared : Confined record? job memory (run.modifyStage sender (·.clearOutbox)) :=
    ⟨confined.memory, confined.past, confined.flight⟩
  have all := cleared.routeAll sender ((run.stages[sender]?.map (·.outbox)).getD [])
  rcases routed : (run.modifyStage sender (·.clearOutbox)).routeAll job sender
    ((run.stages[sender]?.map (·.outbox)).getD []) with ⟨error | _, later⟩
  all_goals rw [routed] at all; simp only [Run.route, routed]
  · exact fail all.memory all.past error
  · exact all.become .running

end Confined

/-- What a poll of a confined callback leaves behind names no other run, before and after the end of
the callback. -/
theorem isOf_afterPoll (wired : Wired job run) (confined : Confined record? job memory run)
    {flight : Flight T} {stage : Stage T} {status : Callback.Status T Unit}
    {scene : Callback.Scene T} (polled : run.Polled flight stage status scene) :
    scene.memory = memory ∧
      (∀ entry ∈ (run.afterPoll job flight.slot.stage scene).past,
        entry.IsOf record? job.runId) ∧
      ∀ rest, status = .waiting rest → rest.Confined record? job.runId := by
  obtain ⟨_, -, blank⟩ := wired.exists_processor polled.found
  have isOf : Callback.Scene.IsOf record? job.runId memory ⟨stage, run.memory, run.past⟩ :=
    ⟨confined.memory, congrArg Stage.runId blank, confined.past⟩
  have after := Callback.isOf_poll (confined.flight flight polled.isFlight) isOf
  rw [polled.polled] at after
  refine ⟨after.1.memory, fun entry member => ?_, after.2⟩
  rcases List.mem_append.mp member with isOffer | isOld
  · obtain ⟨verdict, -, rfl⟩ := List.mem_map.mp (List.mem_reverse.mp isOffer)
    trivial
  · exact after.1.past entry isOld

/-- **A move of a run with confined processors** keeps the run to itself. -/
theorem confined_of_move (processors : ∀ processor ∈ job.pipeline.processors,
      processor.IsConfined record?) (sound : Sound job run)
    (confined : Confined record? job memory run) {next : Run T η} (move : Move job run next) :
    Confined record? job memory next := by
  cases move with
  | announce => exact confined.announce.become .running
  | succeed => exact confined.succeed
  | starve => exact Confined.fail confined.memory confined.past _
  | exceed => exact Confined.fail confined.memory confined.past _
  | choose slot =>
    have chosen : Confined record? job memory { run with current := some slot } :=
      ⟨confined.memory, confined.past, confined.flight⟩
    exact chosen.become .delivering
  | start slot stage processor message rest _ _ _ _ _ hasProcessor =>
    have called := (confined.log
      (.logged (dispatchRecord slot.stage processor.name message)) trivial).log
      (.called (rest.callFor slot.stage message)) trivial
    refine ⟨called.memory, called.past, ?_⟩
    rintro _ ⟨rfl⟩
    exact processors processor (List.mem_of_getElem? hasProcessor) job.runId message
  | refuse flight stage status scene failure polled =>
    obtain ⟨sameMemory, past, -⟩ := isOf_afterPoll sound.toWired confined polled
    exact Confined.fail sameMemory past _
  | wait flight stage scene rest polled =>
    obtain ⟨sameMemory, past, waiting⟩ := isOf_afterPoll sound.toWired confined polled
    refine ⟨sameMemory, past, ?_⟩
    rintro _ ⟨rfl⟩
    exact waiting rest rfl
  | overreach flight stage scene result polled =>
    obtain ⟨sameMemory, past, -⟩ := isOf_afterPoll sound.toWired confined polled
    exact Confined.fail sameMemory (List.forall_mem_cons.mpr ⟨trivial, past⟩) _
  | fail flight stage scene failure polled =>
    obtain ⟨sameMemory, past, -⟩ := isOf_afterPoll sound.toWired confined polled
    exact Confined.fail sameMemory (List.forall_mem_cons.mpr ⟨trivial, past⟩) _
  | finish flight stage scene polled =>
    obtain ⟨sameMemory, past, -⟩ := isOf_afterPoll sound.toWired confined polled
    refine Confined.route ⟨sameMemory, List.forall_mem_cons.mpr ⟨trivial, past⟩, ?_⟩ _
    exact fun _ isFlight => by cases isFlight
  | stop => exact confined

/-- **However many steps are taken**, a run with confined processors keeps to itself. -/
theorem confined_after (processors : ∀ processor ∈ job.pipeline.processors,
      processor.IsConfined record?) (received : η) (memory : T.Memory) (n : Nat) :
    Confined record? job memory ((seed job received memory).after job n) := by
  induction n with
  | zero =>
    refine ⟨rfl, fun _ member => ?_, fun _ isFlight => ?_⟩
    · cases member
    · cases isFlight
  | succ n ih =>
    have sound := sound_after job received memory n
    exact confined_of_move processors sound.awake ⟨ih.memory, ih.past, ih.flight⟩ (move_step sound)

end Run

end Relay
