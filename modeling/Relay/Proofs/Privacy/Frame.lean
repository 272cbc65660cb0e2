import Relay.Proofs.Run.Flight

/-!
# What belongs to a stage

A stage has its place, its processor, its data and its flag to itself. Only a callback of the stage
changes them; all that the others can do to a stage is to put messages into its queues, and that
only when their callbacks have ended well. A callback sees the queues of its stage as they were when it
was started, however much it sends and however often it pauses.

* `Stage.belongings` is what a stage has to itself.
* `Run.exists_polling` says what a poll does to the stages, and `Run.belongings_of_move` what all
  other moves do to a stage.
* `Run.belongings_seed`, `Run.belongings_after` and `Run.pendingAt_after` say what it comes to for
  runs.
-/

namespace Relay

variable {T : Traffic} {η : Type} {α : Type}

/-! ## (1) Belongings -/

/-- **What belongs to a stage**: who it is, what it keeps, and whether it has ended the pipe. -/
structure Belongings (T : Traffic) where
  index : Nat
  stageCount : Nat
  processor : String
  data : StageData T.Value := .empty
  eop : Bool := false

/-- The part of a view that shows what belongs to the stage. -/
def StageView.belongings (view : StageView T) : Belongings T :=
  ⟨view.index, view.stageCount, view.processor, view.data, view.eop⟩

/-- The part of a view that callbacks of the stage do not change: all but data and flag. -/
def StageView.outline (view : StageView T) : StageView T :=
  { view with data := .empty, eop := false }

namespace Stage

/-- **The belongings of a stage.** -/
def belongings (stage : Stage T) : Belongings T := stage.view.belongings

@[simp] theorem belongings_clearCaller (stage : Stage T) :
    stage.clearCaller.belongings = stage.belongings := rfl

@[simp] theorem belongings_receive (stage : Stage T) (place sender : Nat)
    (sent : List (Outgoing T)) :
    (stage.receive place sender sent).belongings = stage.belongings := rfl

/-- Where nothing arrives, nothing changes. -/
@[simp] theorem receive_nil (stage : Stage T) (place sender : Nat) :
    stage.receive place sender [] = stage := by
  simp [receive]

/-- A stage sends itself nothing. -/
theorem receive_self (stage : Stage T) (place : Nat) (sent : List (Outgoing T)) :
    stage.receive place place sent = stage := by
  simp [receive]

/-- Taking a message leaves the stage what belongs to it. -/
theorem belongings_of_pop? {stage rest : Stage T} {kind : MessageKind} {message : Message T}
    (popped : stage.pop? kind = some (message, rest)) : rest.belongings = stage.belongings := by
  rw [rest_of_pop? popped]
  rfl

end Stage

/-! ## (2) What callbacks are shown -/

namespace Callback

/-- **The views that a callback is shown** in one poll, in order. -/
def views : Callback T α → Scene T → List (StageView T)
  | done _, _ => []
  | fail _, _ => []
  | pause _, _ => []
  | look next, scene => scene.stage.view :: (next scene.stage.view).views scene
  | keep data next, scene => next.views { scene with stage := { scene.stage with data } }
  | sendRequest request next, scene =>
    let (result, scene) := scene.sendRequest request
    (next result).views scene
  | sendReply reply next, scene => next.views (scene.sendReply reply)
  | note entry next, scene => next.views (scene.log (.noted scene.stage.index entry))
  | consult next, scene => (next scene.memory).views scene
  | remember memory next, scene => next.views { scene with memory }

/-- Acts of a callback leave the outline of its stage as it is. -/
theorem Scene.Acted.outline {scene later : Scene T} {acts : List (Entry T)}
    (acted : scene.Acted later acts) : later.stage.view.outline = scene.stage.view.outline := by
  rw [acted.stage]
  rfl

/-- **In a poll only data and flag come to look different**: all else is shown as it is at the
beginning of the poll. -/
theorem outline_of_mem_views {callback : Callback T α} {scene : Scene T} {view : StageView T}
    (isShown : view ∈ callback.views scene) : view.outline = scene.stage.view.outline := by
  induction callback generalizing scene with
  | done _ => cases isShown
  | fail _ => cases isShown
  | pause _ => cases isShown
  | look _ ih =>
    rcases List.mem_cons.mp isShown with rfl | later
    · rfl
    · exact ih _ later
  | keep _ _ ih => exact (ih isShown).trans rfl
  | sendRequest request _ ih =>
    obtain ⟨entry, acted⟩ := Scene.Acted.sendRequest scene request
    exact (ih _ isShown).trans acted.outline
  | sendReply reply _ ih =>
    obtain ⟨acts, acted, -⟩ := Scene.Acted.sendReply scene reply
    exact (ih isShown).trans acted.outline
  | note _ _ ih => exact (ih isShown).trans rfl
  | consult _ ih => exact ih _ isShown
  | remember _ _ ih => exact (ih isShown).trans rfl

end Callback

namespace Run

variable {job : Job T η} {run next : Run T η} {place : Nat}

/-- **A busy stage**: a callback of it is in flight. -/
def IsBusyAt (run : Run T η) (place : Nat) : Prop :=
  ∃ flight, run.flight = some flight ∧ flight.slot.stage = place

/-- What belongs to the stage at a place, if there is one. -/
def belongingsAt (run : Run T η) (place : Nat) : Option (Belongings T) :=
  run.stages[place]?.map Stage.belongings

/-! ## (3) Moves -/

/-- **What a poll does to the stages.** That of the callback has got new belongings and nothing in
its queues; the others have got what has been sent, if the callback has ended well, and else
nothing. -/
structure Polling (run next : Run T η) (flight : Flight T) (stage later : Stage T)
    (sent : List (Outgoing T)) : Prop where
  found : run.stages[flight.slot.stage]? = some stage
  foundLater : next.stages[flight.slot.stage]? = some later
  belongings : later.belongings =
    (flight.callback.poll ⟨stage, run.memory, run.past⟩).2.stage.belongings
  requests : later.requests = stage.requests
  responses : later.responses = stage.responses
  others : ∀ place, place ≠ flight.slot.stage → next.stages[place]? =
    run.stages[place]?.map fun stage => stage.receive place flight.slot.stage sent
  unsent : next.flight ≠ none ∨ next.outcome ≠ none → sent = []

/-- A failure changes no stage. -/
theorem stages_fail (job : Job T η) (run : Run T η) (error : RunError) :
    (run.fail job error).stages = run.stages := by
  obtain ⟨reports, failed⟩ := run.fail_eq job error
  rw [failed]
  rfl

/-- **A move with a callback in flight polls it.** -/
theorem exists_polling (sound : Sound job run) (move : Move job run next) {flight : Flight T}
    (isFlight : run.flight = some flight) :
    ∃ stage later sent, Polling run next flight stage later sent := by
  -- As long as nothing is routed, the stage of the callback is the only one to be replaced.
  have unrouted (replaced : Stage T) {stage : Stage T} {status : Callback.Status T Unit}
      {scene : Callback.Scene T} {other : Flight T} (polled : run.Polled other stage status scene)
      (stages : next.stages = run.stages.set other.slot.stage replaced)
      (same : replaced.belongings = scene.stage.belongings ∧
        replaced.requests = scene.stage.requests ∧ replaced.responses = scene.stage.responses) :
      ∃ stage later sent, Polling run next flight stage later sent := by
    obtain rfl := Option.some.inj (polled.isFlight.symm.trans isFlight)
    obtain ⟨acts, acted⟩ := other.callback.poll_acted ⟨stage, run.memory, run.past⟩
    have isScene : (other.callback.poll ⟨stage, run.memory, run.past⟩).2 = scene := by
      rw [polled.polled]
    rw [isScene] at acted
    have within := (List.getElem?_eq_some_iff.mp polled.found).1
    refine ⟨stage, replaced, [], polled.found, ?_, ?_, ?_, ?_, fun place elsewhere => ?_,
      fun _ => rfl⟩
    · rw [stages, List.getElem?_set_self within]
    · rw [isScene, same.1]
    · rw [same.2.1, acted.stage]
      rfl
    · rw [same.2.2, acted.stage]
      rfl
    · rw [stages, List.getElem?_set_ne (Ne.symm elsewhere)]
      simp
  obtain ⟨delivering, -, -⟩ := sound.inFlight isFlight
  cases move with
  | announce state => cases delivering.symm.trans state
  | succeed state => cases delivering.symm.trans state
  | starve state => cases delivering.symm.trans state
  | exceed _ _ state => cases delivering.symm.trans state
  | choose _ state => cases delivering.symm.trans state
  | start _ _ _ _ _ _ _ idle => cases idle.symm.trans isFlight
  | refuse _ _ _ scene _ polled =>
    exact unrouted scene.stage.clearCaller polled (stages_fail job _ _) ⟨rfl, rfl, rfl⟩
  | wait _ _ scene _ polled =>
    exact unrouted scene.stage.clearCaller polled rfl ⟨rfl, rfl, rfl⟩
  | overreach other _ scene result polled =>
    refine unrouted scene.stage.clearCaller.clearViolation polled ?_ ⟨rfl, rfl, rfl⟩
    rw [stages_fail, modifyStage_eq _ (getElem?_settled job scene result polled.found)]
    exact List.set_set _
  | fail _ _ scene failure polled =>
    exact unrouted scene.stage.clearCaller polled (stages_fail job _ _) ⟨rfl, rfl, rfl⟩
  | finish other stage scene polled =>
    obtain rfl := Option.some.inj (polled.isFlight.symm.trans isFlight)
    obtain ⟨turn, earlier, acts, engaged, acted⟩ := exists_acted sound polled
    obtain ⟨reports, finished⟩ := finish_eq sound.toWired engaged acted
    have within := (List.getElem?_eq_some_iff.mp polled.found).1
    rw [finished]
    refine ⟨stage, scene.stage.clearCaller.clearOutbox, scene.stage.outbox, polled.found, ?_, ?_,
      ?_, ?_, fun place elsewhere => ?_, ?_⟩
    · show (List.mapIdx _ _)[_]? = _
      rw [List.getElem?_mapIdx, closed, List.getElem?_set_self within, Option.map_some,
        Stage.receive_self]
    · rw [polled.polled]
      rfl
    · rw [acted.stage]
      rfl
    · rw [acted.stage]
      rfl
    · show (List.mapIdx _ _)[_]? = _
      rw [List.getElem?_mapIdx, closed, List.getElem?_set_ne (Ne.symm elsewhere)]
    · rintro (inFlight | ended)
      · exact absurd rfl inFlight
      · exact absurd polled.outcome ended
  | stop isTerminal => cases (congrArg RunState.isTerminal delivering).symm.trans isTerminal

/-- **A move leaves a stage what belongs to it**, unless a callback of the stage is polled. -/
theorem belongings_of_move (place : Nat) (sound : Sound job run) (move : Move job run next)
    (elsewhere : ∀ flight, run.flight = some flight → flight.slot.stage ≠ place) :
    next.stages[place]?.map Stage.belongings = run.stages[place]?.map Stage.belongings := by
  cases isFlight : run.flight with
  | none =>
    rcases opened_of_move move isFlight with
      ⟨-, stages, -⟩ | ⟨slot, stage, processor, message, rest, found, -, popped, rfl⟩
    · rw [stages]
    · rw [stages_opened processor message rest found]
      by_cases here : slot.stage = place
      · subst here
        rw [List.getElem?_set_self (List.getElem?_eq_some_iff.mp found).1, found, Option.map_some,
          Option.map_some, Stage.belongings_of_pop? popped]
      · rw [List.getElem?_set_ne here]
  | some flight =>
    obtain ⟨stage, later, sent, polling⟩ := exists_polling sound move isFlight
    rw [polling.others place (Ne.symm (elsewhere flight isFlight)), Option.map_map]
    rfl

/-! ## (4) Runs -/

section Runs

variable {received : η} {memory : T.Memory} {m n : Nat}

/-- **At the beginning** stages keep nothing and have not ended the pipe. -/
theorem belongings_seed (job : Job T η) (received : η) (memory : T.Memory) (place : Nat) :
    (seed job received memory).stages[place]?.map Stage.belongings =
      (job.pipeline.processor? place).map fun processor =>
        ⟨place, job.pipeline.size, processor.name, .empty, false⟩ := by
  have fresh : (freshStages job)[place]?.map Stage.belongings =
      (job.pipeline.processor? place).map fun processor =>
        ⟨place, job.pipeline.size, processor.name, .empty, false⟩ := by
    rw [freshStages, List.getElem?_mapIdx, Option.map_map]
    rfl
  rw [← fresh]
  by_cases first : place = 0
  · subst first
    obtain ⟨stage, isFresh, found⟩ := getElem?_seed_zero job received memory
    rw [found, isFresh]
    rfl
  · rw [getElem?_seed_of_ne job received memory first]

/-- **While no callback of a stage is in flight**, the stage keeps what belongs to it, whatever
other callbacks do. -/
theorem belongings_after (le : m ≤ n) (elsewhere : ∀ i, m ≤ i → i < n → ∀ flight,
      ((seed job received memory).after job i).flight = some flight → flight.slot.stage ≠ place) :
    ((seed job received memory).after job n).stages[place]?.map Stage.belongings =
      ((seed job received memory).after job m).stages[place]?.map Stage.belongings := by
  induction n, le using Nat.le_induction with
  | base => rfl
  | succ n le ih =>
    have sound := sound_after job received memory n
    have step := belongings_of_move place sound.awake (move_step sound)
      fun flight isFlight => elsewhere n le (Nat.lt_succ_self n) flight isFlight
    exact step.trans (ih fun i from_m before => elsewhere i from_m (Nat.lt_succ_of_lt before))

/-- **While a callback of a stage is in flight**, nothing joins or leaves the queues of the
stage. -/
theorem pendingAt_after (le : m ≤ n)
    (busy : ∀ i, m ≤ i → i < n → ((seed job received memory).after job i).IsBusyAt place)
    (kind : MessageKind) :
    ((seed job received memory).after job n).pendingAt ⟨place, kind⟩ =
      ((seed job received memory).after job m).pendingAt ⟨place, kind⟩ := by
  induction n, le using Nat.le_induction with
  | base => rfl
  | succ n le ih =>
    obtain ⟨flight, isFlight, here⟩ := busy n le (Nat.lt_succ_self n)
    have sound := sound_after job received memory n
    obtain ⟨stage, later, sent, polling⟩ := exists_polling sound.awake (move_step sound) isFlight
    have found := polling.found
    have foundLater := polling.foundLater
    rw [here] at found foundLater
    rw [← ih fun i from_m before => busy i from_m (Nat.lt_succ_of_lt before), after,
      pendingAt_of_found foundLater]
    refine Eq.trans ?_ (pendingAt_of_found found).symm
    cases kind with
    | request => rw [Stage.pending, Stage.pending, polling.requests]
    | response => rw [Stage.pending, Stage.pending, polling.responses]

end Runs

end Run

end Relay
