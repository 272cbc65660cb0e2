import Relay.Proofs.Run.Polling

/-!
# Ending a callback

When a callback has ended well, what it has sent to its neighbours joins their queues, and the ready
queue is told. The last stage sends no requests, so that all of it has somewhere to go.

* `Run.pendingAt_routed` says what the queues hold afterwards.
* `Run.finish_eq` gives the run after a callback that ends well, and `Run.sound_finish` says that it
  is sound.
-/

namespace Relay

variable {T : Traffic} {η : Type}

/-! ## (1) Routing -/

namespace Outgoing

variable {sender size : Nat} {slot : Slot} {sent : List (Outgoing T)}

/-- Something arrives in exactly the queues that a message is sent to. -/
theorem arrivals_ne_nil_iff :
    arrivals sender slot sent ≠ [] ↔ slot ∈ sent.filterMap (·.destination? sender) := by
  rw [arrivals, Ne, List.filterMap_eq_nil_iff, List.mem_filterMap]
  simp

/-- A message goes to a place of the pipeline, unless it is a request of the last stage. -/
theorem stage_lt_of_destination? {message : Outgoing T} (within : sender < size)
    (noRequest : sender + 1 = size → message.request? = none)
    (isDestination : message.destination? sender = some slot) : slot.stage < size := by
  cases message with
  | request request =>
    obtain rfl := Option.some.inj isDestination
    have notLast : sender + 1 ≠ size := fun last => by simpa [request?] using noRequest last
    show sender + 1 < size
    omega
  | response reply =>
    rw [destination?] at isDestination
    split at isDestination
    · obtain rfl := Option.some.inj isDestination
      show sender - 1 < size
      omega
    · cases isDestination

end Outgoing

namespace Run

variable {job : Job T η} {run : Run T η} {sender : Nat} {sent : List (Outgoing T)}

/-- **What a queue holds after routing**: what it held, and then what has arrived. -/
theorem pendingAt_routed (sender : Nat) (sent : List (Outgoing T)) {slot : Slot}
    (within : slot.stage < run.stages.length) :
    (run.routed sender sent).pendingAt slot =
      run.pendingAt slot ++ Outgoing.arrivals sender slot sent := by
  have found := List.getElem?_eq_getElem within
  have received : (run.routed sender sent).stages[slot.stage]? =
      some (run.stages[slot.stage].receive slot.stage sender sent) := by
    rw [routed, List.getElem?_mapIdx, found]
    rfl
  rw [pendingAt_of_found received, pendingAt_of_found found, Stage.pending_receive]

/-- **Routing leaves the run wired**, as long as the last stage has sent no request. -/
theorem Wired.routed (wired : Wired job run) (sent : List (Outgoing T))
    (within : sender < job.pipeline.size)
    (noRequests : sender + 1 = job.pipeline.size → ∀ message ∈ sent, message.request? = none) :
    Wired job (run.routed sender sent) where
  blank := by
    rw [← wired.blank]
    refine List.ext_getElem? fun place => ?_
    rw [List.getElem?_map, List.getElem?_map, Run.routed, List.getElem?_mapIdx, Option.map_map]
    rfl
  caller := by
    intro place stage found
    rw [Run.routed, List.getElem?_mapIdx] at found
    obtain ⟨old, isOld, rfl⟩ := Option.map_eq_some_iff.mp found
    show old.caller = _
    exact wired.caller isOld
  ready slot := by
    have marked : slot ∈ (run.routed sender sent).ready ↔
        slot ∈ run.ready ∨ slot ∈ sent.filterMap (·.destination? sender) :=
      ReadyQueue.mem_markAll
    rw [marked, wired.ready]
    by_cases inside : slot.stage < run.stages.length
    · rw [pendingAt_routed sender sent inside, ← Outgoing.arrivals_ne_nil_iff, Ne, Ne, Ne,
        List.append_eq_nil_iff]
      tauto
    · have outside := Nat.le_of_not_lt inside
      have outsideRouted : (run.routed sender sent).stages.length ≤ slot.stage := by
        rw [Run.routed, List.length_mapIdx]
        exact outside
      rw [pendingAt_of_outside outside, pendingAt_of_outside outsideRouted]
      refine or_iff_left fun member => inside ?_
      obtain ⟨message, isSent, isDestination⟩ := List.mem_filterMap.mp member
      rw [wired.length_eq]
      exact Outgoing.stage_lt_of_destination? within (fun last => noRequests last message isSent)
        isDestination

/-- Routing hides nothing at any stage. -/
theorem idle_routed (sender : Nat) (sent : List (Outgoing T)) {place : Nat} {stage : Stage T}
    (found : (run.routed sender sent).stages[place]? = some stage) :
    ∃ old, run.stages[place]? = some old ∧ stage.outbox = old.outbox ∧
      stage.violation = old.violation := by
  rw [routed, List.getElem?_mapIdx] at found
  obtain ⟨old, isOld, rfl⟩ := Option.map_eq_some_iff.mp found
  exact ⟨old, isOld, rfl, rfl⟩

/-! ## (2) Ends of callbacks -/

/-- **The run with its callback ended well**, before what has been sent is routed. -/
def closed (job : Job T η) (run : Run T η) (flight : Flight T) (scene : Callback.Scene T) :
    Run T η :=
  { (run.afterPoll job flight.slot.stage scene).settled flight (.ok ()) with
    stages := run.stages.set flight.slot.stage scene.stage.clearCaller.clearOutbox }

section Ending

variable {flight : Flight T} {stage : Stage T} {status : Callback.Status T Unit}
  {scene : Callback.Scene T} {turn : Turn T} {earlier : List (Turn T)} {acts : List (Entry T)}

/-- What a callback that ends well has sent is taken out of its outbox. -/
theorem modifyStage_clearOutbox (job : Job T η)
    (found : run.stages[flight.slot.stage]? = some stage) :
    ((run.afterPoll job flight.slot.stage scene).settled flight (.ok ())).modifyStage
      flight.slot.stage (·.clearOutbox) = run.closed job flight scene := by
  have twice : (run.stages.set flight.slot.stage scene.stage.clearCaller).set flight.slot.stage
      scene.stage.clearCaller.clearOutbox =
        run.stages.set flight.slot.stage scene.stage.clearCaller.clearOutbox := List.set_set _
  rw [modifyStage_eq _ (getElem?_settled job scene (.ok ()) found), closed, ← twice]
  rfl

/-- **What a callback that ends well has sent** is routed, and only then. -/
theorem finish_eq (wired : Wired job run) (engaged : run.Engaged job flight stage turn earlier)
    (acted : Callback.Scene.Acted ⟨stage, run.memory, run.past⟩ scene acts) :
    ∃ reports, ((run.afterPoll job flight.slot.stage scene).settled flight (.ok ())).route job
        flight.slot.stage =
      { ((run.closed job flight scene).routed flight.slot.stage scene.stage.outbox).reporting
          reports with state := .running } := by
  have still := engaged_afterPoll job engaged acted
  have found := getElem?_settled job scene (.ok ()) engaged.found
  obtain ⟨reports, routed⟩ := route_eq job _ found fun first message member =>
    (wired_afterPoll wired engaged.found acted).item?_eq_none still first member
  rw [modifyStage_clearOutbox job engaged.found] at routed
  exact ⟨reports, routed⟩

/-- The queues when a callback has ended well are those from before the poll. -/
theorem pendingAt_closed (found : run.stages[flight.slot.stage]? = some stage)
    (acted : Callback.Scene.Acted ⟨stage, run.memory, run.past⟩ scene acts) (slot : Slot) :
    (run.closed job flight scene).pendingAt slot = run.pendingAt slot := by
  refine pendingAt_set found (fun kind => ?_) slot
  rw [acted.stage]
  cases kind <;> rfl

/-- A run whose callback has ended well is wired. -/
theorem wired_closed (wired : Wired job run) (found : run.stages[flight.slot.stage]? = some stage)
    (acted : Callback.Scene.Acted ⟨stage, run.memory, run.past⟩ scene acts) :
    Wired job (run.closed job flight scene) := by
  have after := wired_afterPoll wired found acted
  have isPolled : (run.afterPoll job flight.slot.stage scene).stages[flight.slot.stage]? =
      some scene.stage.clearCaller := getElem?_afterPoll job scene found
  have cleared := after.set scene.stage.clearCaller.clearOutbox isPolled rfl rfl
    fun kind => by cases kind <;> rfl
  have same : (run.afterPoll job flight.slot.stage scene).stages.set flight.slot.stage
      scene.stage.clearCaller.clearOutbox = (run.closed job flight scene).stages := by
    rw [afterPoll, closed, List.set_set]
  rw [same] at cleared
  exact ⟨cleared.blank, cleared.caller, cleared.ready⟩

/-- **A callback ends soundly.** -/
theorem sound_finish (sound : Sound job run)
    (polled : run.Polled flight stage (.finished (.ok ())) scene)
    (violation : scene.stage.violation = false) :
    Sound job (((run.afterPoll job flight.slot.stage scene).settled flight (.ok ())).route job
      flight.slot.stage) := by
  obtain ⟨turn, earlier, acts, engaged, acted⟩ := exists_acted sound polled
  have still := engaged_afterPoll job engaged acted
  obtain ⟨reports, finished⟩ := finish_eq sound.toWired engaged acted
  have within := sound.lt_size polled.found
  have wired := (wired_closed sound.toWired polled.found acted).routed scene.stage.outbox
    within fun last message member => ?_
  · rw [finished]
    refine
      { blank := wired.blank
        caller := wired.caller
        ready := wired.ready
        idle := ?_
        phase := .atRest (.inr rfl) polled.outcome rfl polled.current
        engaged := fun _ isFlight => by cases isFlight }
    intro _ place other found _
    obtain ⟨old, isOld, outbox, isViolated⟩ := idle_routed _ _ found
    rw [outbox, isViolated]
    rcases getElem?_set_cases isOld with ⟨-, rfl⟩ | ⟨elsewhere, before⟩
    · exact ⟨rfl, violation⟩
    · exact idle_afterPoll sound polled elsewhere
        ((List.getElem?_set_ne (Ne.symm elsewhere)).trans before)
  · -- What is routed has been sent in the turn, in which the last stage sends no request.
    have isLast : scene.stage.clearCaller.isLast = true := by
      rw [(wired_afterPoll sound.toWired polled.found acted).isLast_eq still.found]
      simpa using last
    have isSent : message ∈ (turn.extend acts).sent := by
      have inOutbox : message ∈ scene.stage.clearCaller.outbox := member
      rw [still.outbox, Stage.toNeighbours] at inOutbox
      split at inOutbox
      · exact List.mem_of_mem_filter inOutbox
      · exact inOutbox
    exact still.request?_of_isLast isLast message isSent

end Ending

end Run

end Relay
