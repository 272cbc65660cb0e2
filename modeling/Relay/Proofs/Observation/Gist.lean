import Relay.Processor.Stock
import Relay.Proofs.Delivery
import Relay.Proofs.Run.Flight

/-!
# The gist of a run

The gist of a run is what is left of it without its identifier, without the metadata that its stages
carry along, and without all reports: log records and events. The parts of a step act on the gist,
as it were: what they make of it hangs on nothing that is left out, as long as the callback in
flight looks at neither identifier nor metadata.

* `Callback.Incurious` says which callbacks look at neither.
* `Run.gist` is the gist. `Run.gist_fail` and its neighbours say what becomes of it.
* `Callback.poll_alike_of_incurious` says that an incurious callback acts alike on scenes with one
  gist.
-/

namespace Relay

variable {T : Traffic} {η : Type} {α : Type}

/-! ## (1) Incurious callbacks -/

/-- The view without the identifier of the run and the metadata of its pipeline. -/
def StageView.anonymous (view : StageView T) : StageView T :=
  { view with runId := .nil, metadata := {} }

/-- **An incurious callback** sees of its stage neither the identifier of the run nor the metadata
of its pipeline. -/
def Callback.Incurious : Callback T α → Prop
  | done _ => True
  | fail _ => True
  | pause next => next.Incurious
  | look next =>
    (∀ view other, view.anonymous = other.anonymous → next view = next other) ∧
      ∀ view, (next view).Incurious
  | keep _ next => next.Incurious
  | sendRequest _ next => ∀ result, (next result).Incurious
  | sendReply _ next => next.Incurious
  | note _ next => next.Incurious
  | consult next => ∀ memory, (next memory).Incurious
  | remember _ next => next.Incurious

/-- **An incurious processor**: all its callbacks are. -/
def Processor.IsIncurious (processor : Processor T) : Prop :=
  ∀ message, (processor.handle message).Incurious

/-- Sending items looks at nothing. -/
theorem Callback.incurious_sendItems (items : List T.Response) {next : Callback T α}
    (incurious : next.Incurious) : (Callback.sendItems items next).Incurious := by
  induction items with
  | nil => exact incurious
  | cons item rest ih => exact ih

namespace Processor

/-- **Forwarding everything is incurious.** -/
theorem isIncurious_passThrough (name : String) : (passThrough (T := T) name).IsIncurious := by
  intro message
  cases message with
  | request request =>
    intro result
    cases result <;> trivial
  | response reply => trivial

/-- Always giving the same answer is incurious. -/
theorem isIncurious_terminal (shownItem : T.Response → Text.Shown) (name : String)
    (responses : List T.Response) : (terminal shownItem name responses).IsIncurious := by
  intro message
  cases message with
  | request request => exact Callback.incurious_sendItems responses trivial
  | response reply => trivial

end Processor

/-! ## (2) What is left out -/

namespace Stage

/-- The stage without the identifier of the run and the metadata of its pipeline. -/
def anonymous (stage : Stage T) : Stage T := { stage with runId := .nil, metadata := {} }

variable {stage other : Stage T}

/-- Stages that differ only in these look the same but for these. -/
theorem view_alike (same : stage.anonymous = other.anonymous) :
    stage.view.anonymous = other.view.anonymous := by
  have viewed (stage : Stage T) : stage.view.anonymous = stage.anonymous.view := rfl
  rw [viewed, viewed, same]

/-- Whether a message is taken from a stage hangs on neither. -/
theorem pop?_anonymous (stage : Stage T) (kind : MessageKind) :
    stage.anonymous.pop? kind =
      (stage.pop? kind).map fun (message, rest) => (message, rest.anonymous) := by
  cases kind with
  | request => cases queue : stage.requests <;> simp [pop?, anonymous, queue]
  | response => cases queue : stage.responses <;> simp [pop?, anonymous, queue]

/-- From stages that differ only in these the same message is taken. -/
theorem pop?_alike (same : stage.anonymous = other.anonymous) {kind : MessageKind}
    {message : Message T} {rest : Stage T} (popped : stage.pop? kind = some (message, rest)) :
    ∃ otherRest, other.pop? kind = some (message, otherRest) ∧
      rest.anonymous = otherRest.anonymous := by
  have taken := pop?_anonymous other kind
  rw [← same, pop?_anonymous, popped, Option.map_some] at taken
  obtain ⟨⟨otherMessage, otherRest⟩, isTaken, pair⟩ := Option.map_eq_some_iff.mp taken.symm
  obtain ⟨rfl, sameRest⟩ := Prod.mk.inj pair
  exact ⟨otherRest, isTaken, sameRest.symm⟩

end Stage

namespace Journal

/-- **The journal without its reports.** -/
def gist (past : List (Entry T)) : List (Entry T) := past.filter fun entry => !entry.isReport

@[simp] theorem gist_nil : gist ([] : List (Entry T)) = [] := rfl

@[simp] theorem gist_append (later past : List (Entry T)) :
    gist (later ++ past) = gist later ++ gist past := List.filter_append _ _

/-- Reports are left out. -/
@[simp] theorem gist_reports (reports : Reports T) : gist reports.entries = [] := by
  refine List.filter_eq_nil_iff.mpr fun entry member => ?_
  simp [reports.isReport_of_mem entry member]

/-- Offers are no reports. -/
theorem gist_offers (offers : List (T.Response × Except Failure Unit)) :
    gist (offers.map (Entry.ofVerdict (T := T))).reverse =
      (offers.map Entry.ofVerdict).reverse := by
  refine List.filter_eq_self.mpr fun entry member => ?_
  obtain ⟨verdict, -, rfl⟩ := List.mem_map.mp (List.mem_reverse.mp member)
  rfl

/-- One more entry, which may be a report. -/
theorem gist_cons (entry : Entry T) (past : List (Entry T)) :
    gist (entry :: past) = if entry.isReport then gist past else entry :: gist past := by
  cases isReport : entry.isReport with
  | true => exact List.filter_cons_of_neg (by simp [isReport])
  | false => exact List.filter_cons_of_pos (by simp [isReport])

/-- The gist has no reports to leave out. -/
@[simp] theorem gist_gist (past : List (Entry T)) : gist (gist past) = gist past :=
  List.filter_filter.trans (List.filter_congr fun _ _ => Bool.and_self _)

/-- The turns of a journal are those of its gist. -/
theorem ofPast_gist (past : List (Entry T)) : Turn.ofPast (gist past) = Turn.ofPast past := by
  induction past with
  | nil => rfl
  | cons entry rest ih =>
    rw [gist_cons]
    cases isReport : entry.isReport with
    | true =>
      rw [if_pos rfl, ih]
      exact (Turn.ofPast_reports ⟨[entry], by simpa using isReport⟩ rest).symm
    | false => rw [if_neg Bool.false_ne_true, Turn.ofPast_cons, Turn.ofPast_cons, ih]

end Journal

/-! ## (3) Polls -/

namespace Callback

/-- **The gist of a scene.** -/
def Scene.gist (scene : Scene T) : Scene T where
  stage := scene.stage.anonymous
  memory := scene.memory
  past := Journal.gist scene.past

section Alike

variable {scene other : Scene T}

/-- One more entry on scenes with one gist. -/
theorem Scene.log_alike (same : scene.gist = other.gist) (entry : Entry T) :
    (scene.log entry).gist = (other.log entry).gist := by
  have logged (scene : Scene T) : (scene.log entry).gist = (scene.gist.log entry).gist := by
    simp only [Scene.log, Scene.gist, Journal.gist_cons, Journal.gist_gist]
    rfl
  rw [logged scene, same, ← logged other]

/-- A request on scenes with one gist. -/
theorem Scene.sendRequest_alike (same : scene.gist = other.gist) (request : T.Request) :
    (scene.sendRequest request).1 = (other.sendRequest request).1 ∧
      (scene.sendRequest request).2.gist = (other.sendRequest request).2.gist := by
  have sent (scene : Scene T) : scene.gist.sendRequest request =
      ((scene.sendRequest request).1, (scene.sendRequest request).2.gist) := by
    have isLast : scene.gist.stage.isLast = scene.stage.isLast := rfl
    cases last : scene.stage.isLast <;>
      simp only [Scene.sendRequest, Stage.sendRequest, isLast, last, if_true, if_false,
        Bool.false_eq_true] <;> rfl
  refine Prod.mk.inj ?_
  rw [← sent scene, same, sent other]

/-- A reply on scenes with one gist. -/
theorem Scene.sendReply_alike (same : scene.gist = other.gist) (reply : Reply T.Response) :
    (scene.sendReply reply).gist = (other.sendReply reply).gist := by
  have stage (stage : Stage T) :
      (stage.anonymous.sendReply reply).anonymous = (stage.sendReply reply).anonymous := by
    rw [Stage.sendReply_eq_acted, Stage.sendReply_eq_acted]
    rfl
  -- A warning about a late reply is left out.
  have sent (scene : Scene T) :
      (scene.sendReply reply).gist = (scene.gist.sendReply reply).gist := by
    have past (scene : Scene T) : Journal.gist (scene.sendReply reply).past =
        .sent scene.stage.index (.response reply) :: Journal.gist scene.past := by
      cases late : scene.stage.eop <;>
        simp [Scene.sendReply, late, Journal.gist_cons, Entry.isReport]
    rw [Scene.gist, Scene.gist, past, past]
    show Scene.mk (scene.stage.sendReply reply).anonymous _ _ =
      Scene.mk (scene.stage.anonymous.sendReply reply).anonymous _ _
    rw [stage]
    simp [Scene.gist, Stage.anonymous]
    rfl
  rw [sent scene, same, ← sent other]

/-- **An incurious callback acts alike** on scenes with one gist, and leaves an incurious rest. -/
theorem poll_alike_of_incurious {callback : Callback T α} (incurious : callback.Incurious)
    (same : scene.gist = other.gist) :
    (callback.poll scene).1 = (callback.poll other).1 ∧
      (callback.poll scene).2.gist = (callback.poll other).2.gist ∧
      ∀ rest, (callback.poll scene).1 = .waiting rest → rest.Incurious := by
  induction callback generalizing scene other with
  | done _ => exact ⟨rfl, same, fun _ waiting => by cases waiting⟩
  | fail _ => exact ⟨rfl, same, fun _ waiting => by cases waiting⟩
  | pause next =>
    have index : scene.stage.index = other.stage.index := congrArg (·.stage.index) same
    refine ⟨rfl, ?_, fun rest waiting => ?_⟩
    · rw [poll, poll, index]
      exact Scene.log_alike same _
    · cases waiting
      exact incurious
  | look next ih =>
    have view := Stage.view_alike (congrArg Scene.stage same)
    have twin : (look next).poll other = (next scene.stage.view).poll other := by
      rw [poll, incurious.1 _ _ view]
    rw [twin]
    exact ih scene.stage.view (incurious.2 _) same
  | keep data _ ih =>
    have kept (scene : Scene T) : ({ scene with stage := { scene.stage with data } }).gist =
        { scene.gist with stage := { scene.gist.stage with data } } := rfl
    exact ih incurious (by rw [kept, kept, same])
  | sendRequest request next ih =>
    obtain ⟨result, alike⟩ := Scene.sendRequest_alike same request
    have twin : (sendRequest request next).poll other =
        (next (scene.sendRequest request).1).poll (other.sendRequest request).2 := by
      rw [result]
      rfl
    rw [twin]
    exact ih _ (incurious _) alike
  | sendReply reply _ ih => exact ih incurious (Scene.sendReply_alike same reply)
  | note entry next ih =>
    have index : scene.stage.index = other.stage.index := congrArg (·.stage.index) same
    rw [poll, poll, index]
    exact ih incurious (Scene.log_alike same _)
  | consult next ih =>
    have memory : scene.memory = other.memory := congrArg (·.memory) same
    have twin : (consult next).poll other = (next scene.memory).poll other := by
      rw [poll, memory]
    rw [twin]
    exact ih _ (incurious _) same
  | remember memory _ ih =>
    have remembered (scene : Scene T) : ({ scene with memory }).gist =
        { scene.gist with memory } := rfl
    exact ih incurious (by rw [remembered, remembered, same])

end Alike

end Callback

/-! ## (4) Runs -/

/-- The summary that tells nothing. -/
def RunSummary.blank : RunSummary := ⟨.nil, "", 0, 0, 0, 0, 0, ⟨⟨1970, 1, 1⟩, 0, 0⟩, 0⟩

namespace Run

/-- **The gist of a run.** What the summary of a run counts is in it anyway. -/
def gist (run : Run T η) : Run T η :=
  { run with
    stages := run.stages.map Stage.anonymous
    past := Journal.gist run.past
    outcome := run.outcome.map fun result => result.map fun _ => .blank }

variable {job : Job T η} {run : Run T η}

/-- Reports are no part of the gist. -/
@[simp] theorem gist_reporting (run : Run T η) (reports : Reports T) :
    (run.reporting reports).gist = run.gist := by
  simp [gist, reporting]

/-- The start of a run is only reported. -/
theorem gist_announce (job : Job T η) (run : Run T η) : (run.announce job).gist = run.gist := by
  obtain ⟨reports, announced⟩ := run.announce_eq job
  rw [announced, gist_reporting]

/-- Of a change of state the gist keeps the new state. -/
theorem gist_become (run : Run T η) (next : RunState) :
    (run.become next).gist = { run.gist with state := next } := by
  rw [become_eq]
  exact congrArg (fun gist : Run T η => { gist with state := next }) (gist_reporting run _)

/-- **Success**, in the gist. -/
theorem gist_succeed (job : Job T η) (run : Run T η) :
    (run.succeed job).gist =
      { run.gist with state := .terminated, outcome := some (.ok .blank) } := by
  obtain ⟨reports, succeeded⟩ := run.succeed_eq job
  rw [succeeded]
  exact congrArg (fun gist : Run T η => { gist with
    state := .terminated, outcome := some (.ok .blank) }) (gist_reporting run reports)

/-- **Failure**, in the gist. -/
theorem gist_fail (job : Job T η) (run : Run T η) (error : RunError) :
    (run.fail job error).gist =
      { run.gist with state := .failed, flight := none, outcome := some (.error error) } := by
  obtain ⟨reports, failed⟩ := run.fail_eq job error
  rw [failed]
  exact congrArg (fun gist : Run T η => { gist with
    state := .failed, flight := none, outcome := some (.error error) }) (gist_reporting run reports)

/-- A change of one element, and a change of all. -/
theorem map_modify {α β : Type} (f : α → β) {change : α → α} {image : β → β}
    (commutes : ∀ a, f (change a) = image (f a)) (list : List α) (index : Nat) :
    (list.modify index change).map f = (list.map f).modify index image := by
  refine List.ext_getElem? fun place => ?_
  rw [List.getElem?_map, List.getElem?_modify, List.getElem?_modify, List.getElem?_map]
  cases list[place]? with
  | none => rfl
  | some a =>
    by_cases here : index = place
    · simp [here, commutes]
    · simp [here]

/-- A change of a stage that does not hang on what is left out. -/
theorem gist_modifyStage (run : Run T η) (index : Nat) (change : Stage T → Stage T)
    (commutes : ∀ stage, (change stage).anonymous = change stage.anonymous) :
    (run.modifyStage index change).gist = run.gist.modifyStage index change :=
  congrArg (fun stages => { run.gist with stages }) (map_modify _ commutes run.stages index)

/-- **The start of a callback**, in the gist: the record of it is left out. -/
theorem gist_opened (run : Run T η) (slot : Slot) (processor : Processor T) (message : Message T)
    (rest : Stage T) :
    (run.opened slot processor message rest).gist =
      { run.gist.opened slot processor message rest.anonymous with
        past := .called (rest.anonymous.callFor slot.stage message) :: run.gist.past } := by
  have stages : (run.stages.modify slot.stage fun _ => rest).map Stage.anonymous =
      (run.stages.map Stage.anonymous).modify slot.stage fun _ => rest.anonymous :=
    map_modify _ (by intro _; rfl) run.stages slot.stage
  simp only [gist, opened, stages, Journal.gist_cons]
  rfl

/-- **The end of a poll**, in the gist. -/
theorem gist_afterPoll (job : Job T η) (run : Run T η) (index : Nat) (scene : Callback.Scene T) :
    (run.afterPoll job index scene).gist = run.gist.afterPoll job index scene.gist := by
  have caller : scene.gist.stage.callerQueue = scene.stage.callerQueue := rfl
  simp only [gist, afterPoll, caller, List.map_set, Journal.gist_append, Journal.gist_offers]
  rfl

/-- **The end of a callback**, in the gist. -/
theorem gist_settled (run : Run T η) (flight : Flight T) (result : Except Failure Unit) :
    (run.settled flight result).gist = run.gist.settled flight result := rfl

/-- The end of a callback that has ended well, in the gist. -/
theorem gist_closed (job : Job T η) (run : Run T η) (flight : Flight T)
    (scene : Callback.Scene T) :
    (run.closed job flight scene).gist = run.gist.closed job flight scene.gist := by
  have caller : scene.gist.stage.callerQueue = scene.stage.callerQueue := rfl
  simp only [gist, closed, settled, log, afterPoll, caller, List.map_set, Journal.gist_cons,
    Journal.gist_append, Journal.gist_offers]
  rfl

/-- **Routing**, in the gist. -/
theorem gist_routed (run : Run T η) (sender : Nat) (sent : List (Outgoing T)) :
    (run.routed sender sent).gist = run.gist.routed sender sent := by
  have stages : (run.stages.mapIdx fun place stage => stage.receive place sender sent).map
      Stage.anonymous = (run.stages.map Stage.anonymous).mapIdx fun place stage =>
        stage.receive place sender sent := by
    refine List.ext_getElem? fun place => ?_
    rw [List.getElem?_map, List.getElem?_mapIdx, List.getElem?_mapIdx, List.getElem?_map]
    cases run.stages[place]? <;> rfl
  simp only [gist, routed, stages]

end Run

end Relay
