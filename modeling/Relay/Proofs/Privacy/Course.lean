import Relay.Proofs.Pauses.Unpaused
import Relay.Proofs.Privacy.Frame

/-!
# Stages go by their messages

A secluded processor sees of its stage only what belongs to it, and consults nothing else. So what
belongs to its stage follows a course that the messages handed to the stage determine: each of them
takes it one callback further, and nothing that happens elsewhere does. Two runs that hand the same
messages to the same secluded processor at the same place leave it the same belongings, and let it
go the same way through each callback.

* `Callback.Secluded` and `Processor.IsSecluded` say which processors are secluded.
* `Processor.course` is the course, and `Run.onCourse_after` says that stages are on it.
* `Run.stages_are_private` is the result.
-/

namespace Relay

variable {T : Traffic} {η θ : Type} {α : Type}

/-! ## (1) Callbacks -/

namespace Callback

/-- **A secluded callback** sees of its stage only what belongs to it, and nothing of what
processors remember. -/
def Secluded : Callback T α → Prop
  | done _ => True
  | fail _ => True
  | pause next => next.Secluded
  | look next =>
    (∀ view other, view.belongings = other.belongings → next view = next other) ∧
      ∀ view, (next view).Secluded
  | keep _ next => next.Secluded
  | sendRequest _ next => ∀ result, (next result).Secluded
  | sendReply _ next => next.Secluded
  | note _ next => next.Secluded
  | consult _ => False
  | remember _ next => next.Secluded

/-- Without its pauses a callback is as secluded as with them. -/
theorem Secluded.unpaused {callback : Callback T α} (secluded : callback.Secluded) :
    callback.unpaused.Secluded := by
  induction callback with
  | done _ => trivial
  | fail _ => trivial
  | pause _ ih => exact ih secluded
  | look _ ih =>
    exact ⟨fun view other same => congrArg Callback.unpaused (secluded.1 view other same),
      fun view => ih view (secluded.2 view)⟩
  | keep _ _ ih => exact ih secluded
  | sendRequest _ _ ih => exact fun result => ih result (secluded result)
  | sendReply _ _ ih => exact ih secluded
  | note _ _ ih => exact ih secluded
  | consult _ => exact secluded.elim
  | remember _ _ ih => exact ih secluded

section Twins

variable {first second : Scene T}

/-- New data belong to both stages. -/
theorem keep_alike (same : first.stage.belongings = second.stage.belongings)
    (data : StageData T.Value) :
    { first.stage with data }.belongings = { second.stage with data }.belongings := by
  simp only [Stage.belongings, Stage.view, StageView.belongings, Belongings.mk.injEq] at same ⊢
  exact ⟨same.1, same.2.1, same.2.2.1, trivial, same.2.2.2.2⟩

/-- What a request comes to hangs on what belongs to the stage. -/
theorem sendRequest_alike (same : first.stage.belongings = second.stage.belongings)
    (request : T.Request) :
    (first.sendRequest request).1 = (second.sendRequest request).1 ∧
      (first.sendRequest request).2.stage.belongings =
        (second.sendRequest request).2.stage.belongings := by
  have index : first.stage.index = second.stage.index := congrArg Belongings.index same
  have count : first.stage.stageCount = second.stage.stageCount :=
    congrArg Belongings.stageCount same
  have last : first.stage.isLast = second.stage.isLast := by
    rw [Stage.isLast, Stage.isLast, index, count]
  cases isLast : first.stage.isLast with
  | true =>
    have sent := Stage.sendRequest_of_isLast isLast request
    have twin := Stage.sendRequest_of_isLast (last.symm.trans isLast) request
    simp only [Scene.sendRequest, sent, twin, index]
    refine ⟨trivial, ?_⟩
    simpa [Stage.belongings, Stage.view, StageView.belongings, Stage.acted] using same
  | false =>
    have sent := Stage.sendRequest_of_not_isLast isLast request
    have twin := Stage.sendRequest_of_not_isLast (last.symm.trans isLast) request
    simp only [Scene.sendRequest, sent, twin]
    refine ⟨trivial, ?_⟩
    simpa [Stage.belongings, Stage.view, StageView.belongings, Stage.acted, Outgoing.isEop]
      using same

/-- What a reply comes to does so as well. -/
theorem sendReply_alike (same : first.stage.belongings = second.stage.belongings)
    (reply : Reply T.Response) :
    (first.sendReply reply).stage.belongings = (second.sendReply reply).stage.belongings := by
  have flag : first.stage.eop = second.stage.eop := congrArg Belongings.eop same
  simp only [Stage.belongings, Stage.view, StageView.belongings, Belongings.mk.injEq] at same
  simp [Scene.sendReply, Stage.sendReply_eq_acted, Stage.belongings, Stage.view,
    StageView.belongings, Stage.acted, same]

/-- **A secluded callback goes the same way** on stages to which the same belongs, whatever else is
around them. -/
theorem poll_alike_of_secluded {callback : Callback T α} (secluded : callback.Secluded)
    (same : first.stage.belongings = second.stage.belongings) :
    (callback.poll first).1 = (callback.poll second).1 ∧
      (callback.poll first).2.stage.belongings = (callback.poll second).2.stage.belongings ∧
      ∀ rest, (callback.poll first).1 = .waiting rest → rest.Secluded := by
  induction callback generalizing first second with
  | done _ => exact ⟨rfl, same, fun _ waiting => by cases waiting⟩
  | fail _ => exact ⟨rfl, same, fun _ waiting => by cases waiting⟩
  | pause next =>
    refine ⟨rfl, same, fun rest waiting => ?_⟩
    cases waiting
    exact secluded
  | look next ih =>
    have twin : (look next).poll second = (next first.stage.view).poll second := by
      rw [poll, secluded.1 _ _ same]
    rw [twin]
    exact ih first.stage.view (secluded.2 _) same
  | keep data _ ih => exact ih secluded (keep_alike same data)
  | sendRequest request next ih =>
    obtain ⟨result, alike⟩ := sendRequest_alike same request
    have twin : (sendRequest request next).poll second =
        (next (first.sendRequest request).1).poll (second.sendRequest request).2 := by
      rw [result]
      rfl
    rw [twin]
    exact ih _ (secluded _) alike
  | sendReply reply _ ih => exact ih secluded (sendReply_alike same reply)
  | note _ _ ih => exact ih secluded same
  | consult _ => exact secluded.elim
  | remember _ _ ih => exact ih secluded same

end Twins

end Callback

/-! ## (2) The course of a stage -/

/-- A stage with these belongings, by itself. -/
def Belongings.alone (own : Belongings T) : Stage T where
  index := own.index
  stageCount := own.stageCount
  processor := own.processor
  runId := .nil
  metadata := {}
  data := own.data
  eop := own.eop

namespace Callback

/-- **What becomes of the belongings of a stage** when a callback is run to its end on it. -/
def conclude (callback : Callback T Unit) (memory : T.Memory) (own : Belongings T) :
    Belongings T :=
  (callback.runAlone ⟨own.alone, memory, []⟩).2.stage.belongings

variable {callback rest : Callback T Unit} {scene later : Scene T} {memory : T.Memory}

/-- The end that a callback comes to is that of its poll without pauses, on whatever stage with
these belongings that is made. -/
theorem conclude_eq (secluded : callback.Secluded) (memory : T.Memory) (scene : Scene T) :
    callback.conclude memory scene.stage.belongings =
      (callback.unpaused.poll scene).2.stage.belongings := by
  obtain ⟨-, alike, -⟩ := poll_alike_of_secluded secluded.unpaused
    (show (Scene.mk scene.stage.belongings.alone memory []).stage.belongings =
      scene.stage.belongings from rfl)
  rw [← alike, conclude, runAlone]
  split <;> rename_i polled <;> rw [polled]

/-- **A poll with which a callback ends** leaves what the callback was to come to. -/
theorem conclude_of_finished {result : Except Failure Unit} (secluded : callback.Secluded)
    (memory : T.Memory) (finished : callback.poll scene = (.finished result, later)) :
    callback.conclude memory scene.stage.belongings = later.stage.belongings := by
  rw [conclude_eq secluded, poll_unpaused_of_finished finished]

/-- **A poll in which a callback pauses** leaves the rest of it to come to the same. -/
theorem conclude_of_waiting (secluded : callback.Secluded) (memory : T.Memory)
    (waiting : callback.poll scene = (.waiting rest, later)) :
    callback.conclude memory scene.stage.belongings =
      rest.conclude memory later.stage.belongings := by
  obtain ⟨mid, isLater, goesOn⟩ := exists_pause waiting
  have restSecluded : rest.Secluded :=
    (poll_alike_of_secluded secluded rfl).2.2 rest (congrArg Prod.fst waiting)
  have sameStage : later.stage = mid.stage := by
    rw [isLater]
    rfl
  rw [conclude_eq secluded, goesOn, sameStage, conclude_eq restSecluded]

end Callback

namespace Processor

/-- **A secluded processor.** -/
def IsSecluded (processor : Processor T) : Prop :=
  ∀ message, (processor.handle message).Secluded

/-- **The course of a stage**: what becomes of its belongings with one message after another. -/
def course (processor : Processor T) (memory : T.Memory) (own : Belongings T)
    (messages : List (Message T)) : Belongings T :=
  messages.foldl (fun own message => (processor.handle message).conclude memory own) own

/-- One more message takes the course one callback further. -/
theorem course_concat (processor : Processor T) (memory : T.Memory) (own : Belongings T)
    (messages : List (Message T)) (message : Message T) :
    processor.course memory own (messages ++ [message]) =
      (processor.handle message).conclude memory (processor.course memory own messages) := by
  rw [course, List.foldl_append]
  rfl

end Processor

namespace Run

variable {job : Job T η} {run next : Run T η} {place : Nat} {processor : Processor T}

/-- **The messages handed to a stage**, in order. -/
def handedTo (run : Run T η) (place : Nat) : List (Message T) :=
  (run.turns.filter (·.call.stage = place)).map (·.call.message)

/-- **A stage at rest**: every callback of it has ended. -/
def IsQuietAt (run : Run T η) (place : Nat) : Prop :=
  ∀ turn ∈ Turn.ofPast run.past, turn.call.stage = place → turn.result ≠ none

/-- What belongs to the stage of a processor at the beginning. -/
def firstBelongings (job : Job T η) (place : Nat) (processor : Processor T) : Belongings T :=
  ⟨place, job.pipeline.size, processor.name, .empty, false⟩

/-- **A stage on its course**: at rest it is where its messages have taken it, and a callback in
flight is about to take it there. -/
structure OnCourse (job : Job T η) (place : Nat) (processor : Processor T) (memory : T.Memory)
    (run : Run T η) : Prop where
  quiet : run.IsQuietAt place → run.stages[place]?.map Stage.belongings =
    some (processor.course memory (firstBelongings job place processor) (run.handedTo place))
  busy : ∀ flight stage, run.flight = some flight → flight.slot.stage = place →
    run.stages[place]? = some stage → flight.callback.conclude memory stage.belongings =
      processor.course memory (firstBelongings job place processor) (run.handedTo place)

/-- The messages handed to stages hang on the turns alone, and on these only by their calls. -/
theorem handedTo_of_ofPast {turn late : Turn T} {earlier : List (Turn T)}
    (before : Turn.ofPast run.past = turn :: earlier)
    (turns : Turn.ofPast next.past = late :: earlier) (call : late.call = turn.call)
    (place : Nat) : next.handedTo place = run.handedTo place := by
  simp only [handedTo, Run.turns, before, turns, List.reverse_cons, List.filter_append,
    List.filter_singleton, List.map_append, call]
  cases decide (turn.call.stage = place) <;> simp [call]

/-! ## (3) Moves -/

/-- **What happens elsewhere** leaves a stage on its course. -/
theorem OnCourse.of_elsewhere {memory : T.Memory}
    (onCourse : OnCourse job place processor memory run)
    (belongings : next.stages[place]?.map Stage.belongings =
      run.stages[place]?.map Stage.belongings)
    (handed : next.handedTo place = run.handedTo place)
    (quiet : next.IsQuietAt place → run.IsQuietAt place) (idle : ¬ next.IsBusyAt place) :
    OnCourse job place processor memory next where
  quiet isQuiet := by
    rw [belongings, handed]
    exact onCourse.quiet (quiet isQuiet)
  busy flight stage isFlight here := absurd ⟨flight, isFlight, here⟩ idle

/-- **A callback that is started** is about to take its stage one message further. -/
theorem OnCourse.opened {memory : T.Memory} (onCourse : OnCourse job place processor memory run)
    {slot : Slot} {stage rest : Stage T} {message : Message T} (here : slot.stage = place)
    (orderly : Orderly (run.opened slot processor message rest))
    (found : run.stages[slot.stage]? = some stage)
    (popped : stage.pop? slot.kind = some (message, rest)) :
    OnCourse job place processor memory (run.opened slot processor message rest) := by
  subst here
  have wasQuiet : run.IsQuietAt slot.stage := by
    intro turn member _
    rw [Turn.result_eq_of_isClean (orderly.earlier turn member)]
    exact Option.some_ne_none _
  have was := onCourse.quiet wasQuiet
  rw [found, Option.map_some, Option.some.injEq] at was
  refine ⟨fun isQuiet => ?_, fun flight replaced isFlight _ isReplaced => ?_⟩
  · exact absurd rfl (isQuiet { call := rest.callFor slot.stage message } List.mem_cons_self rfl)
  · obtain rfl := Option.some.inj isFlight
    have handed : (run.opened slot processor message rest).handedTo slot.stage =
        run.handedTo slot.stage ++ [message] := by
      simp [handedTo, Run.turns, Run.opened, Entry.tell, Stage.callFor]
    rw [stages_opened processor message rest found,
      List.getElem?_set_self (List.getElem?_eq_some_iff.mp found).1] at isReplaced
    obtain rfl := Option.some.inj isReplaced
    rw [handed, Processor.course_concat, ← was, Stage.belongings_of_pop? popped]

/-- **A callback that is polled** takes its stage there or leaves it to the rest to do so. -/
theorem OnCourse.polled {memory : T.Memory} (onCourse : OnCourse job place processor memory run)
    (sound : Sound job run) (move : Move job run next) {flight : Flight T}
    (isFlight : run.flight = some flight) (here : flight.slot.stage = place)
    (secluded : flight.callback.Secluded) : OnCourse job place processor memory next := by
  obtain ⟨stage, later, sent, polling⟩ := exists_polling sound move isFlight
  obtain ⟨same, turn, late, earlier, acts, acted⟩ := exists_late sound move isFlight
  obtain rfl := Option.some.inj (polling.found.symm.trans acted.engaged.found)
  subst here
  have was := onCourse.busy flight stage isFlight rfl polling.found
  have handed := handedTo_of_ofPast acted.engaged.turns acted.turns acted.call flight.slot.stage
  rw [← handed] at was
  rcases polled : flight.callback.poll ⟨stage, run.memory, run.past⟩ with ⟨status, scene⟩
  have isScene : later.belongings = scene.stage.belongings := by rw [polling.belongings, polled]
  refine ⟨fun isQuiet => ?_, fun other replaced isOther _ isReplaced => ?_⟩
  · have atPlace : late.call.stage = flight.slot.stage := by rw [acted.call, acted.engaged.place]
    have ended := isQuiet late (acted.turns ▸ List.mem_cons_self) atPlace
    obtain ⟨result, finished⟩ := acted.ended ended
    rw [polled] at finished
    obtain rfl := finished
    rw [polling.foundLater, Option.map_some, isScene, ← was]
    exact congrArg some (Callback.conclude_of_finished secluded memory polled).symm
  · obtain ⟨-, waiting⟩ := acted.waiting other isOther
    rw [polled] at waiting
    obtain rfl := waiting
    obtain rfl := Option.some.inj (polling.foundLater.symm.trans isReplaced)
    rw [isScene, ← was]
    exact (Callback.conclude_of_waiting secluded memory polled).symm

/-- **Moves keep stages on their courses.** -/
theorem onCourse_of_move {memory : T.Memory}
    (hasProcessor : job.pipeline.processor? place = some processor)
    (secluded : ∀ flight, run.flight = some flight → flight.slot.stage = place →
      flight.callback.Secluded)
    (sound : Sound job run) (orderly : Orderly next)
    (onCourse : OnCourse job place processor memory run) (move : Move job run next) :
    OnCourse job place processor memory next := by
  cases isFlight : run.flight with
  | none =>
    have belongings := belongings_of_move place sound move fun flight isOther => by
      cases isFlight.symm.trans isOther
    rcases opened_of_move move isFlight with
      ⟨idle, -, turns⟩ | ⟨slot, stage, other, message, rest, found, isProcessor, popped, rfl⟩
    · refine onCourse.of_elsewhere belongings ?_ (fun isQuiet => ?_) ?_
      · rw [handedTo, handedTo, Run.turns, Run.turns, turns]
      · rw [IsQuietAt, turns] at isQuiet
        exact isQuiet
      · rintro ⟨flight, isOther, -⟩
        cases idle.symm.trans isOther
    · by_cases here : slot.stage = place
      · rw [here] at isProcessor
        obtain rfl := Option.some.inj (hasProcessor.symm.trans isProcessor)
        exact onCourse.opened here orderly found popped
      · refine onCourse.of_elsewhere belongings ?_ (fun isQuiet turn member => ?_) ?_
        · simp [handedTo, Run.turns, Run.opened, Entry.tell, Stage.callFor, here]
        · exact isQuiet turn (List.mem_cons_of_mem _ member)
        · rintro ⟨flight, isOther, there⟩
          obtain rfl := Option.some.inj isOther
          exact here there
  | some flight =>
    by_cases here : flight.slot.stage = place
    · exact onCourse.polled sound move isFlight here (secluded flight isFlight here)
    · have belongings := belongings_of_move place sound move fun other isOther => by
        obtain rfl := Option.some.inj (isFlight.symm.trans isOther)
        exact here
      obtain ⟨stage, turn, late, earlier, acts, acted⟩ := exists_late sound move isFlight
      refine onCourse.of_elsewhere belongings
        (handedTo_of_ofPast acted.engaged.turns acted.turns acted.call place)
        (fun isQuiet other member atPlace => ?_) ?_
      · rw [acted.engaged.turns] at member
        rcases List.mem_cons.mp member with rfl | isEarlier
        · exact absurd (acted.engaged.place.symm.trans atPlace) here
        · exact isQuiet other (acted.turns ▸ List.mem_cons_of_mem _ isEarlier) atPlace
      · rintro ⟨other, isOther, there⟩
        exact here ((congrArg Slot.stage (acted.waiting other isOther).1).symm.trans there)

/-! ## (4) Runs -/

/-- A callback in flight of a secluded processor is secluded. -/
theorem secluded_after (hasProcessor : job.pipeline.processor? place = some processor)
    (secluded : processor.IsSecluded) (received : η) (memory : T.Memory) (n : Nat)
    {flight : Flight T} (isFlight : ((seed job received memory).after job n).flight = some flight)
    (here : flight.slot.stage = place) : flight.callback.Secluded := by
  refine callback_after (P := fun slot callback => slot.stage = place → callback.Secluded)
    ?starts ?leaves received memory n flight isFlight here
  case starts =>
    rintro slot other message isProcessor - rfl
    obtain rfl := Option.some.inj (hasProcessor.symm.trans isProcessor)
    exact secluded message
  case leaves =>
    rintro slot callback rest own ⟨scene, later, polled⟩ here
    exact (Callback.poll_alike_of_secluded (own here) rfl).2.2 rest (congrArg Prod.fst polled)

/-- **In every state of a run the stage of a secluded processor is on its course**, whatever
processors are taken to remember on it. -/
theorem onCourse_after (hasProcessor : job.pipeline.processor? place = some processor)
    (secluded : processor.IsSecluded) (received : η) (memory recalled : T.Memory) (n : Nat) :
    OnCourse job place processor recalled ((seed job received memory).after job n) := by
  induction n with
  | zero =>
    refine ⟨fun _ => ?_, fun flight stage isFlight => by cases isFlight⟩
    rw [after, belongings_seed, hasProcessor]
    rfl
  | succ n ih =>
    have sound := sound_after job received memory n
    refine onCourse_of_move hasProcessor (fun flight isFlight here => ?_) sound.awake
      (orderly_after job received memory (n + 1)) ⟨ih.quiet, ih.busy⟩ (move_step sound)
    exact secluded_after hasProcessor secluded received memory n isFlight here

/-- Between callbacks all stages are at rest, unless the run has failed. -/
theorem isQuietAt_of_idle (orderly : Orderly run)
    (unfailed : ∀ error, run.outcome ≠ some (.error error)) (idle : run.flight = none)
    (place : Nat) : run.IsQuietAt place := fun turn member _ =>
  orderly.result_ne_none unfailed idle turn (List.mem_reverse.mpr member)

section Twins

variable {other : Job T θ} {received : η} {told : θ} {memory remembered : T.Memory} {m n : Nat}

/-- **Stages at rest** to which the same messages have been handed have the same belongings. -/
theorem belongings_eq_of_quiet (size : other.pipeline.size = job.pipeline.size)
    (hasProcessor : job.pipeline.processor? place = some processor)
    (otherHas : other.pipeline.processor? place = some processor)
    (secluded : processor.IsSecluded)
    (handed : ((seed job received memory).after job m).handedTo place =
      ((seed other told remembered).after other n).handedTo place)
    (quiet : ((seed job received memory).after job m).IsQuietAt place)
    (twinQuiet : ((seed other told remembered).after other n).IsQuietAt place) :
    ((seed job received memory).after job m).stages[place]?.map Stage.belongings =
      ((seed other told remembered).after other n).stages[place]?.map Stage.belongings := by
  have first : firstBelongings other place processor = firstBelongings job place processor := by
    rw [firstBelongings, firstBelongings, size]
  rw [(onCourse_after hasProcessor secluded received memory memory m).quiet quiet,
    (onCourse_after otherHas secluded told remembered memory n).quiet twinQuiet, handed, first]

/-- **The same callback on the same belongings**: two runs of which each has a callback of a stage
in flight, with the same still to do for both. -/
structure InStep (place : Nat) (run : Run T η) (twin : Run T θ) : Prop where
  belongings : run.stages[place]?.map Stage.belongings = twin.stages[place]?.map Stage.belongings
  callbacks : ∀ flight other, run.flight = some flight → twin.flight = some other →
    flight.slot.stage = place → other.slot.stage = place → flight.callback = other.callback

/-- **A step keeps two busy stages in step**, as long as their callbacks are secluded. -/
theorem InStep.step {run : Run T η} {twin : Run T θ} (inStep : InStep place run twin)
    (sound : Sound job run) (twinSound : Sound other twin)
    (secluded : ∀ flight, run.flight = some flight → flight.slot.stage = place →
      flight.callback.Secluded)
    (busy : run.IsBusyAt place) (twinBusy : twin.IsBusyAt place) :
    InStep place (run.step job) (twin.step other) := by
  obtain ⟨flight, isFlight, rfl⟩ := busy
  obtain ⟨twinFlight, isTwin, there⟩ := twinBusy
  have callbacks := inStep.callbacks flight twinFlight isFlight isTwin rfl there
  obtain ⟨stage, later, sent, polling⟩ := exists_polling sound.awake (move_step sound) isFlight
  obtain ⟨twinStage, twinLater, twinSent, twinPolling⟩ :=
    exists_polling twinSound.awake (move_step twinSound) isTwin
  have found := twinPolling.found
  have foundLater := twinPolling.foundLater
  rw [there] at found foundLater
  have same : stage.belongings = twinStage.belongings := by
    have both := inStep.belongings
    rw [show run.stages[flight.slot.stage]? = some stage from polling.found,
      show twin.stages[flight.slot.stage]? = some twinStage from found] at both
    exact Option.some.inj both
  obtain ⟨status, belongings, -⟩ := Callback.poll_alike_of_secluded
    (secluded flight isFlight rfl)
    (show (Callback.Scene.mk stage run.memory run.past).stage.belongings =
      (Callback.Scene.mk twinStage twin.memory twin.past).stage.belongings from same)
  refine ⟨?_, fun rest twinRest isRest isTwinRest _ _ => ?_⟩
  · rw [polling.foundLater, foundLater, Option.map_some, Option.map_some, polling.belongings,
      twinPolling.belongings, ← callbacks]
    exact congrArg some belongings
  · obtain ⟨_, turn, late, earlier, acts, acted⟩ :=
      exists_late sound.awake (move_step sound) isFlight
    obtain ⟨_, twinTurn, twinLate, twinEarlier, twinActs, twinActed⟩ :=
      exists_late twinSound.awake (move_step twinSound) isTwin
    obtain rfl := Option.some.inj (polling.found.symm.trans acted.engaged.found)
    obtain rfl := Option.some.inj (twinPolling.found.symm.trans twinActed.engaged.found)
    have waiting := (acted.waiting rest isRest).2
    have twinWaiting := (twinActed.waiting twinRest isTwinRest).2
    rw [← callbacks] at twinWaiting
    exact Callback.Status.waiting.inj (waiting.symm.trans (status.trans twinWaiting))

/-- **However many steps two busy stages are taken**, they stay in step. -/
theorem InStep.after (hasProcessor : job.pipeline.processor? place = some processor)
    (secluded : processor.IsSecluded)
    (inStep : InStep place ((seed job received memory).after job m)
      ((seed other told remembered).after other n)) (k : Nat)
    (busy : ∀ i < k, ((seed job received memory).after job (m + i)).IsBusyAt place)
    (twinBusy : ∀ i < k, ((seed other told remembered).after other (n + i)).IsBusyAt place) :
    InStep place ((seed job received memory).after job (m + k))
      ((seed other told remembered).after other (n + k)) := by
  induction k with
  | zero => exact inStep
  | succ k ih =>
    have still := ih (fun i lt => busy i (Nat.lt_succ_of_lt lt))
      fun i lt => twinBusy i (Nat.lt_succ_of_lt lt)
    refine still.step (sound_after job received memory (m + k))
      (sound_after other told remembered (n + k)) (fun flight isFlight here => ?_)
      (busy k (Nat.lt_succ_self k)) (twinBusy k (Nat.lt_succ_self k))
    exact secluded_after hasProcessor secluded received memory (m + k) isFlight here

/-- **The start of a callback**: one more message is handed to the stage, which has been at rest and
still has the same belongings. -/
theorem exists_handed (hasProcessor : job.pipeline.processor? place = some processor)
    (idle : ((seed job received memory).after job n).flight = none)
    (busy : ((seed job received memory).after job (n + 1)).IsBusyAt place) :
    ∃ message,
      ((seed job received memory).after job (n + 1)).handedTo place =
        ((seed job received memory).after job n).handedTo place ++ [message] ∧
      ((seed job received memory).after job n).IsQuietAt place ∧
      ((seed job received memory).after job (n + 1)).stages[place]?.map Stage.belongings =
        ((seed job received memory).after job n).stages[place]?.map Stage.belongings ∧
      ∀ flight, ((seed job received memory).after job (n + 1)).flight = some flight →
        flight.callback = processor.handle message := by
  have sound := sound_after job received memory n
  have move := move_step sound
  obtain ⟨flight, isFlight, here⟩ := busy
  have belongings := belongings_of_move place sound.awake move fun other isOther => by
    cases idle.symm.trans isOther
  have unfinished : ((seed job received memory).after job n).outcome = none := by
    cases outcome : ((seed job received memory).after job n).outcome with
    | none => rfl
    | some result =>
      have ended := outcome_after_of_finished (Nat.le_succ n) outcome
      cases ((sound_after job received memory (n + 1)).inFlight isFlight).2.1.symm.trans ended
  have quiet := isQuietAt_of_idle (orderly_after job received memory n)
    (fun error failed => by cases unfinished.symm.trans failed) idle place
  rcases opened_of_move move idle with
    ⟨stillIdle, -⟩ | ⟨slot, stage, opener, message, rest, found, isProcessor, popped, opened⟩
  · cases stillIdle.symm.trans isFlight
  · have isOpened := congrArg Run.flight opened
    obtain rfl := Option.some.inj (isOpened.symm.trans isFlight)
    subst here
    obtain rfl := Option.some.inj (hasProcessor.symm.trans isProcessor)
    refine ⟨message, ?_, quiet, belongings, fun later isLater => ?_⟩
    · rw [after, opened]
      simp [handedTo, Run.turns, Run.opened, Entry.tell, Stage.callFor, awake]
    · obtain rfl := Option.some.inj (isOpened.symm.trans isLater)
      rfl

/-- **Two callbacks that are started with the same messages behind them** start in step. -/
theorem inStep_of_started (size : other.pipeline.size = job.pipeline.size)
    (hasProcessor : job.pipeline.processor? place = some processor)
    (otherHas : other.pipeline.processor? place = some processor)
    (secluded : processor.IsSecluded)
    (idle : ((seed job received memory).after job m).flight = none)
    (busy : ((seed job received memory).after job (m + 1)).IsBusyAt place)
    (twinIdle : ((seed other told remembered).after other n).flight = none)
    (twinBusy : ((seed other told remembered).after other (n + 1)).IsBusyAt place)
    (handed : ((seed job received memory).after job (m + 1)).handedTo place =
      ((seed other told remembered).after other (n + 1)).handedTo place) :
    InStep place ((seed job received memory).after job (m + 1))
      ((seed other told remembered).after other (n + 1)) := by
  obtain ⟨message, more, quiet, kept, callback⟩ := exists_handed hasProcessor idle busy
  obtain ⟨twinMessage, twinMore, twinQuiet, twinKept, twinCallback⟩ :=
    exists_handed otherHas twinIdle twinBusy
  rw [more, twinMore] at handed
  obtain ⟨before, last⟩ := List.append_inj' handed rfl
  obtain rfl := List.singleton_inj.mp last
  refine ⟨?_, fun flight twin isFlight isTwin _ _ => ?_⟩
  · rw [kept, twinKept]
    exact belongings_eq_of_quiet size hasProcessor otherHas secluded before quiet twinQuiet
  · rw [callback flight isFlight, twinCallback twin isTwin]

end Twins

/-! ## (5) The result -/

/-- **A stage's state is its own.** At the beginning it keeps nothing and has not ended the pipe.
What belongs to it stays as it is while no callback of the stage is in flight, so that each callback
finds what the one before has left. While a callback of it is in flight, all other stages stay as
they are, and only when it has ended well do they get what it has sent into their queues; and the
callback is shown that as many messages wait at the stage as have been left when its own was taken.
So if its processor is secluded, what belongs to the stage hangs on the messages handed to it alone:
a run of another job with as many stages and the same processor there leaves it the same belongings
whenever both are at rest after the same messages, and from the start of a callback on after the
same messages the two go in step until one of these callbacks is done with. -/
theorem stages_are_private (job : Job T η) (received : η) (memory : T.Memory) (place : Nat) :
    let run := (seed job received memory).after job
    (run 0).belongingsAt place = (job.pipeline.processor? place).map (firstBelongings job place) ∧
    (∀ m n, m ≤ n → (∀ i, m ≤ i → i < n → ¬ (run i).IsBusyAt place) →
      (run n).belongingsAt place = (run m).belongingsAt place) ∧
    (∀ n, (run n).IsBusyAt place → ∃ sent,
      (∀ other, other ≠ place → (run (n + 1)).stages[other]? =
        (run n).stages[other]?.map fun stage => stage.receive other place sent) ∧
      ((run (n + 1)).IsBusyAt place ∨ (run (n + 1)).outcome ≠ none → sent = [])) ∧
    (∀ m n, m ≤ n → (∀ i, m ≤ i → i ≤ n → (run i).IsBusyAt place) →
      ∀ flight stage, (run n).flight = some flight → (run n).stages[place]? = some stage →
        ∀ view ∈ flight.callback.views ⟨stage, (run n).memory, (run n).past⟩,
          view.pendingRequests = ((run m).pendingAt ⟨place, .request⟩).length ∧
          view.pendingResponses = ((run m).pendingAt ⟨place, .response⟩).length) ∧
    ∀ (θ : Type) (other : Job T θ) (told : θ) (remembered : T.Memory) (processor : Processor T),
      other.pipeline.size = job.pipeline.size →
      job.pipeline.processor? place = some processor →
      other.pipeline.processor? place = some processor → processor.IsSecluded →
      let twin := (seed other told remembered).after other
      (∀ m n, (run m).handedTo place = (twin n).handedTo place → (run m).IsQuietAt place →
        (twin n).IsQuietAt place → (run m).belongingsAt place = (twin n).belongingsAt place) ∧
      ∀ m n, (run m).flight = none → (run (m + 1)).IsBusyAt place → (twin n).flight = none →
        (twin (n + 1)).IsBusyAt place →
        (run (m + 1)).handedTo place = (twin (n + 1)).handedTo place →
        ∀ k, (∀ i < k, (run (m + 1 + i)).IsBusyAt place) →
          (∀ i < k, (twin (n + 1 + i)).IsBusyAt place) →
          (run (m + 1 + k)).belongingsAt place = (twin (n + 1 + k)).belongingsAt place := by
  intro run
  refine ⟨belongings_seed job received memory place, fun m n le elsewhere => ?kept, ?others,
    ?counts, ?twins⟩
  case kept =>
    exact belongings_after le fun i from_m before flight isFlight here =>
      elsewhere i from_m before ⟨flight, isFlight, here⟩
  case others =>
    rintro n ⟨flight, isFlight, rfl⟩
    have sound := sound_after job received memory n
    obtain ⟨stage, later, sent, polling⟩ := exists_polling sound.awake (move_step sound) isFlight
    refine ⟨sent, polling.others, fun goesOn => polling.unsent (goesOn.imp_left ?_)⟩
    rintro ⟨other, isOther, -⟩
    rw [show ((run n).step job).flight = some other from isOther]
    exact Option.some_ne_none _
  case counts =>
    intro m n le busy flight stage isFlight found view isShown
    have outline := Callback.outline_of_mem_views isShown
    have queue (kind : MessageKind) :
        (run m).pendingAt ⟨place, kind⟩ = stage.pending kind := by
      have sinceStart := pendingAt_after le
        (fun i from_m before => busy i from_m (Nat.le_of_lt before)) kind
      exact sinceStart.symm.trans (pendingAt_of_found found)
    rw [queue, queue, Stage.pending, Stage.pending, List.length_map, List.length_map]
    exact ⟨congrArg StageView.pendingRequests outline, congrArg StageView.pendingResponses outline⟩
  case twins =>
    intro θ other told remembered processor size hasProcessor otherHas secluded twin
    refine ⟨fun m n handed quiet twinQuiet => ?_, ?_⟩
    · exact belongings_eq_of_quiet size hasProcessor otherHas secluded handed quiet twinQuiet
    · intro m n idle busy twinIdle twinBusy handed k stays twinStays
      have started := inStep_of_started size hasProcessor otherHas secluded idle busy twinIdle
        twinBusy handed
      exact (started.after hasProcessor secluded k stays twinStays).belongings

end Run

/-! ## (6) Two neighbours of one stage -/

/-- A pipeline for numbers, whose stages keep numbers. -/
@[reducible] def numbered : Traffic where
  Request := Nat
  Response := Nat
  Kind := Unit
  Value := fun _ => Nat

/-- **A processor that counts its requests**, and answers each with how many there have been. -/
def tally : Processor numbered where
  name := "tally"
  onRequest _ := .look fun view =>
    let count := ((view.data.get? ⟨"count", ()⟩).getD 0 : Nat) + 1
    .keep (view.data.insert "count" ⟨(), count⟩) (.send (.item count))

/-- A processor that counts its requests is secluded: of its stage it sees only the data. -/
theorem isSecluded_tally : tally.IsSecluded := by
  rintro (request | reply)
  · refine ⟨fun view other same => ?_, fun view => trivial⟩
    have data : view.data = other.data := congrArg Belongings.data same
    simp only [data]
  · trivial

/-- **A job for two stages**, the last one of which counts the requests that the first one sends. -/
def tallying (front : Nat → Callback numbered Unit) : Job numbered (List Nat) where
  pipeline :=
    { name := "tallying"
      processors := [.ofCallbacks "front" front, tally]
      metadata := {}
      name_not_blank := by decide
      processors_ne_nil := by simp }
  request := (7 : Nat)
  handler := .collecting
  runId := .nil
  startedAt := ⟨⟨2024, 1, 1⟩, 0, 0⟩
  durationMs := 0

/-- A first stage that sends its request on twice. -/
def sendsTwice (request : Nat) : Callback numbered Unit :=
  .sendRequest request fun _ => .sendRequest request fun _ => .nothing

/-- A first stage that also answers the request, and pauses in between. -/
def sendsTwiceAndPauses (request : Nat) : Callback numbered Unit :=
  .sendReply (.item request) (.sendRequest request fun _ =>
    .pause (.sendRequest request fun _ => .nothing))

/-- Whichever of the two the first stage is, the last one counts to two. -/
theorem tallies_are_private :
    let run := (Run.seed (tallying sendsTwice) [] ()).after (tallying sendsTwice) 13
    let twin :=
      (Run.seed (tallying sendsTwiceAndPauses) [] ()).after (tallying sendsTwiceAndPauses) 15
    run.handedTo 1 = twin.handedTo 1 ∧ run.IsQuietAt 1 ∧ twin.IsQuietAt 1 ∧
      run.belongingsAt 1 = twin.belongingsAt 1 ∧
      (run.belongingsAt 1).bind (·.data.get? ⟨"count", ()⟩) = some (2 : Nat) := by
  intro run twin
  have handed : run.handedTo 1 = [.request (7 : Nat), .request (7 : Nat)] := by rfl
  have twinHanded : twin.handedTo 1 = [.request (7 : Nat), .request (7 : Nat)] := by rfl
  have quiet : run.IsQuietAt 1 := by unfold Run.IsQuietAt; decide
  have twinQuiet : twin.IsQuietAt 1 := by unfold Run.IsQuietAt; decide
  obtain ⟨-, -, -, -, twins⟩ :=
    Run.stages_are_private (tallying sendsTwice) [] () 1
  have same : run.belongingsAt 1 = twin.belongingsAt 1 :=
    (twins (List Nat) (tallying sendsTwiceAndPauses) [] () tally rfl rfl rfl
      isSecluded_tally).1 13 15 (handed.trans twinHanded.symm) quiet twinQuiet
  exact ⟨handed.trans twinHanded.symm, quiet, twinQuiet, same, by rfl⟩

end Relay
