import Relay.Proofs.Run.Opening

/-!
# Polling a callback

A poll changes the stage of the callback and its turn, and no queue. What has been sent to the
caller is taken away with the poll; everything else stays in the outbox.

* `Run.engaged_afterPoll` and `Run.wired_afterPoll` say what a poll leaves behind.
* `Run.sound_wait` says that a run stays sound when its callback pauses.
-/

namespace Relay

variable {T : Traffic} {η : Type}

namespace Run

variable {job : Job T η} {run : Run T η}

/-! ## (1) Polling -/

section Polling

variable {index : Nat} {flight : Flight T} {stage : Stage T} {status : Callback.Status T Unit}
  {scene : Callback.Scene T} {turn : Turn T} {earlier : List (Turn T)} {acts : List (Entry T)}

/-- The callback that is polled is in its turn, which is the latest one. -/
theorem exists_engaged (sound : Sound job run) (polled : run.Polled flight stage status scene) :
    ∃ turn earlier, run.Engaged job flight stage turn earlier := by
  obtain ⟨other, turn, earlier, engaged⟩ := sound.engaged flight polled.isFlight
  obtain rfl := Option.some.inj (polled.found.symm.trans engaged.found)
  exact ⟨turn, earlier, engaged⟩

/-- A poll acts on the stage of the callback in flight, whose turn is the latest one. -/
theorem exists_acted (sound : Sound job run) (polled : run.Polled flight stage status scene) :
    ∃ turn earlier acts, run.Engaged job flight stage turn earlier ∧
      Callback.Scene.Acted ⟨stage, run.memory, run.past⟩ scene acts := by
  obtain ⟨turn, earlier, engaged⟩ := exists_engaged sound polled
  obtain ⟨acts, acted⟩ := flight.callback.poll_acted ⟨stage, run.memory, run.past⟩
  rw [polled.polled] at acted
  exact ⟨turn, earlier, acts, engaged, acted⟩

/-- The stage of a callback after a poll. -/
theorem getElem?_afterPoll (job : Job T η) (scene : Callback.Scene T)
    (found : run.stages[index]? = some stage) :
    (run.afterPoll job index scene).stages[index]? = some scene.stage.clearCaller :=
  List.getElem?_set_self (List.getElem?_eq_some_iff.mp found).1

/-- The stage of a callback that has ended. -/
theorem getElem?_settled (job : Job T η) (scene : Callback.Scene T) (result : Except Failure Unit)
    (found : run.stages[flight.slot.stage]? = some stage) :
    ((run.afterPoll job flight.slot.stage scene).settled flight result).stages[
      flight.slot.stage]? = some scene.stage.clearCaller := getElem?_afterPoll job scene found

/-- A poll moves no waiting message. -/
theorem pendingAt_afterPoll (job : Job T η) (found : run.stages[index]? = some stage)
    (acted : Callback.Scene.Acted ⟨stage, run.memory, run.past⟩ scene acts) (slot : Slot) :
    (run.afterPoll job index scene).pendingAt slot = run.pendingAt slot := by
  refine pendingAt_set found (fun kind => ?_) slot
  rw [acted.stage]
  cases kind <;> rfl

/-- **A poll leaves the run wired.** -/
theorem wired_afterPoll (wired : Wired job run) (found : run.stages[index]? = some stage)
    (acted : Callback.Scene.Acted ⟨stage, run.memory, run.past⟩ scene acts) :
    Wired job (run.afterPoll job index scene) := by
  have blank : scene.stage.clearCaller.blank = stage.blank := by rw [acted.stage]; rfl
  -- What the callback has sent to the caller has been taken away.
  have caller : scene.stage.clearCaller.caller = stage.caller := by
    rw [acted.stage, Stage.clearCaller, Stage.acted, wired.caller found]
    split <;> rfl
  exact
    { blank := wired.blank_set found blank
      caller := wired.caller_set found caller
      ready := fun slot => by
        rw [pendingAt_afterPoll job found acted]
        exact wired.ready slot }

/-- **A poll extends the turn** of the callback in flight. -/
theorem engaged_afterPoll (job : Job T η) (engaged : run.Engaged job flight stage turn earlier)
    (acted : Callback.Scene.Acted ⟨stage, run.memory, run.past⟩ scene acts) :
    (run.afterPoll job flight.slot.stage scene).Engaged job flight scene.stage.clearCaller
      (turn.extend acts) earlier := by
  have feeds : scene.stage.clearCaller.feedsCaller = stage.feedsCaller := by
    rw [acted.stage]
    simp [Stage.feedsCaller, Stage.clearCaller, Stage.acted]
  have sameLast : scene.stage.clearCaller.isLast = stage.isLast := by rw [acted.stage]; rfl
  have turns : Turn.ofPast scene.past = turn.extend acts :: earlier := by
    rw [acted.past]
    exact Turn.ofPast_acts acted.areActs engaged.turns
  refine
    { found := getElem?_afterPoll job scene engaged.found
      processor := ?processor
      turns := (Turn.ofPast_offers _ scene.past).trans turns
      place := engaged.place
      kind := engaged.kind
      result := engaged.result
      outbox := ?outbox
      violation := ?violation
      request?_of_isLast := ?requests
      isLast_of_isRefused := ?refusals }
  case processor =>
    rw [acted.stage]
    exact engaged.processor
  case outbox =>
    -- What the first stage sends to the caller is never in its outbox.
    have outbox : scene.stage.clearCaller.outbox =
        stage.outbox ++ stage.toNeighbours (Journal.sent acts) := by rw [acted.stage]; rfl
    rw [outbox, engaged.outbox, ← Stage.toNeighbours_append, Stage.toNeighbours,
      Stage.toNeighbours, feeds]
    rfl
  case violation =>
    have violation : scene.stage.clearCaller.violation =
        (stage.violation || Journal.isRefused acts) := by rw [acted.stage]; rfl
    rw [violation, engaged.violation]
    rfl
  case requests =>
    intro last message member
    rcases List.mem_append.mp member with isEarlier | isNew
    · exact engaged.request?_of_isLast (sameLast ▸ last) message isEarlier
    · exact acted.request?_of_isLast (sameLast ▸ last) message isNew
  case refusals =>
    intro refused
    rcases Bool.or_eq_true_iff.mp refused with before | now
    · exact sameLast ▸ engaged.isLast_of_isRefused before
    · exact sameLast ▸ acted.isLast_of_isRefused now

/-- A poll leaves nothing behind at the other stages. -/
theorem idle_afterPoll (sound : Sound job run) (polled : run.Polled flight stage status scene)
    {place : Nat} {other : Stage T} (elsewhere : place ≠ flight.slot.stage)
    (found : (run.afterPoll job flight.slot.stage scene).stages[place]? = some other) :
    other.outbox = [] ∧ other.violation = false := by
  rcases getElem?_set_cases found with ⟨here, -⟩ | ⟨-, isOld⟩
  · exact absurd here elsewhere
  · refine sound.idle polled.outcome isOld fun same isFlight => ?_
    obtain rfl := Option.some.inj (polled.isFlight.symm.trans isFlight)
    exact Ne.symm elsewhere

/-- **A callback pauses soundly.** -/
theorem sound_wait {rest : Callback T Unit} (sound : Sound job run)
    (polled : run.Polled flight stage (.waiting rest) scene) :
    Sound job { run.afterPoll job flight.slot.stage scene with
      flight := some { flight with callback := rest }
      isWaiting := true } := by
  obtain ⟨turn, earlier, acts, engaged, acted⟩ := exists_acted sound polled
  have wired := wired_afterPoll sound.toWired polled.found acted
  have still := engaged_afterPoll job engaged acted
  exact
    { blank := wired.blank
      caller := wired.caller
      ready := wired.ready
      idle := fun _ _ _ found elsewhere =>
        idle_afterPoll sound polled (Ne.symm (elsewhere { flight with callback := rest } rfl)) found
      phase := .inFlight _ polled.state polled.outcome rfl polled.current
      engaged := by
        rintro _ ⟨rfl⟩
        exact ⟨_, _, _, still.found, still.processor, still.turns, still.place, still.kind,
          still.result, still.outbox, still.violation, still.request?_of_isLast,
          still.isLast_of_isRefused⟩ }

end Polling

end Run

end Relay
