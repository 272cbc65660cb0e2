import Relay.Proofs.Turn

/-!
# What a poll does

A poll of a callback runs some of its operations on a scene. Whatever they are, the scene changes in
one way only: the journal grows by acts of the stage, the stage gets new data, what was sent is
split between the outbox and the caller, and the flags of the stage rise. Nothing else of the stage
moves, its queues least of all.

* `Callback.scenes` are the scenes that a poll goes through.
* `Callback.acted_of_mem_scenes` says this of each of them, whatever the callback does, and
  `Callback.poll_acted` of the poll as a whole.
-/

namespace Relay

variable {T : Traffic} {α : Type}

/-! ## (1) What a stage sends where -/

namespace Stage

/-- Whether the stage hands its items straight to the caller. -/
def feedsCaller (stage : Stage T) : Bool := stage.index == 0 && stage.caller.isSome

/-- The part of what a stage sends that goes to its neighbours. -/
def toNeighbours (stage : Stage T) (sent : List (Outgoing T)) : List (Outgoing T) :=
  if stage.feedsCaller then sent.filter (·.item?.isNone) else sent

/-- The part of what a stage sends that goes to the caller. -/
def toCaller (stage : Stage T) (sent : List (Outgoing T)) : List T.Response :=
  if stage.feedsCaller then sent.filterMap Outgoing.item? else []

/-- **The stage after its callback has acted**: with new data, with messages sent, and with a
request refused or not. -/
def acted (stage : Stage T) (data : StageData T.Value) (sent : List (Outgoing T))
    (isRefused : Bool) : Stage T :=
  { stage with
    data
    outbox := stage.outbox ++ stage.toNeighbours sent
    caller := stage.caller.map (· ++ stage.toCaller sent)
    eop := stage.eop || sent.any Outgoing.isEop
    violation := stage.violation || isRefused }

@[simp] theorem toNeighbours_nil (stage : Stage T) : stage.toNeighbours [] = [] := by
  simp [toNeighbours]

@[simp] theorem toCaller_nil (stage : Stage T) : stage.toCaller [] = [] := by
  simp [toCaller]

@[simp] theorem toNeighbours_append (stage : Stage T) (first second : List (Outgoing T)) :
    stage.toNeighbours (first ++ second) =
      stage.toNeighbours first ++ stage.toNeighbours second := by
  unfold toNeighbours
  split <;> simp

@[simp] theorem toCaller_append (stage : Stage T) (first second : List (Outgoing T)) :
    stage.toCaller (first ++ second) = stage.toCaller first ++ stage.toCaller second := by
  unfold toCaller
  split <;> simp

@[simp] theorem acted_index (stage : Stage T) (data : StageData T.Value) (sent : List (Outgoing T))
    (isRefused : Bool) : (stage.acted data sent isRefused).index = stage.index := rfl

/-- Acting changes nothing about where a stage sends its items. -/
@[simp] theorem acted_feedsCaller (stage : Stage T) (data : StageData T.Value)
    (sent : List (Outgoing T)) (isRefused : Bool) :
    (stage.acted data sent isRefused).feedsCaller = stage.feedsCaller := by
  simp [acted, feedsCaller]

/-- Without sending anything only the data change. -/
theorem acted_nil (stage : Stage T) (data : StageData T.Value) :
    stage.acted data [] false = { stage with data } := by
  cases caller : stage.caller <;> simp [acted, caller]

/-- **Acting twice** is acting once with all that was sent. -/
theorem acted_acted (stage : Stage T) (first second : StageData T.Value)
    (early late : List (Outgoing T)) (isRefused isRefusedLater : Bool) :
    (stage.acted first early isRefused).acted second late isRefusedLater =
      stage.acted second (early ++ late) (isRefused || isRefusedLater) := by
  have sameNeighbours := fun sent : List (Outgoing T) =>
    show (stage.acted first early isRefused).toNeighbours sent = stage.toNeighbours sent by
      simp [toNeighbours]
  have sameCaller := fun sent : List (Outgoing T) =>
    show (stage.acted first early isRefused).toCaller sent = stage.toCaller sent by
      simp [toCaller]
  rw [acted, sameNeighbours, sameCaller]
  cases caller : stage.caller <;>
    simp [acted, caller, Bool.or_assoc]

/-- A request sent from a stage that is not the last one. -/
theorem sendRequest_of_not_isLast {stage : Stage T} (notLast : stage.isLast = false)
    (request : T.Request) :
    stage.sendRequest request = (.ok (), stage.acted stage.data [.request request] false) := by
  have toOutbox : stage.toNeighbours [.request request] = [.request request] := by
    simp [toNeighbours, Outgoing.item?]
  have toNobody : stage.toCaller [.request request] = [] := by
    simp [toCaller, Outgoing.item?]
  rw [sendRequest, if_neg (by simp [notLast]), acted, toOutbox, toNobody]
  cases stage.caller <;> simp [Outgoing.isEop]

/-- A request refused at the last stage. -/
theorem sendRequest_of_isLast {stage : Stage T} (last : stage.isLast = true)
    (request : T.Request) :
    stage.sendRequest request =
      (.error (.noDownstream stage.index), stage.acted stage.data [] true) := by
  rw [sendRequest, if_pos last]
  cases caller : stage.caller <;> simp [acted, caller]

/-- A reply sent, from whatever stage. -/
theorem sendReply_eq_acted (stage : Stage T) (reply : Reply T.Response) :
    stage.sendReply reply = stage.acted stage.data [.response reply] false := by
  cases reply with
  | eop =>
    cases caller : stage.caller <;>
      simp [sendReply, acted, toNeighbours, toCaller, Outgoing.item?, Outgoing.isEop, Reply.item?,
        Reply.isEop, caller]
  | item payload =>
    cases caller : stage.caller with
    | none =>
      simp [sendReply, acted, toNeighbours, feedsCaller, Outgoing.isEop, Reply.isEop, caller]
    | some queue =>
      by_cases first : stage.index = 0 <;>
        simp [sendReply, acted, toNeighbours, toCaller, feedsCaller, Outgoing.item?,
          Outgoing.isEop, Reply.item?, Reply.isEop, caller, first]

end Stage

/-! ## (2) Acts on a scene -/

namespace Callback

/-- **What acts do to a scene**, where the acts are given latest first. -/
structure Scene.Acted (scene after : Scene T) (acts : List (Entry T)) : Prop where
  past : after.past = acts ++ scene.past
  areActs : ∀ entry ∈ acts, entry.isActAt scene.stage.index = true
  stage : after.stage =
    scene.stage.acted after.stage.data (Journal.sent acts) (Journal.isRefused acts)
  /-- The last stage sends no requests. -/
  request?_of_isLast : scene.stage.isLast = true →
    ∀ message ∈ Journal.sent acts, message.request? = none
  /-- Only the last stage is refused one. -/
  isLast_of_isRefused : Journal.isRefused acts = true → scene.stage.isLast = true

namespace Scene.Acted

/-- New data and new memories are no acts. -/
theorem keep (scene : Scene T) (data : StageData T.Value) (memory : T.Memory) :
    Acted scene { scene with stage := { scene.stage with data }, memory } [] where
  past := rfl
  areActs := by simp
  stage := (scene.stage.acted_nil data).symm
  request?_of_isLast := by simp
  isLast_of_isRefused := by simp

/-- Without any act nothing changes. -/
theorem refl (scene : Scene T) : Acted scene scene [] :=
  keep scene scene.stage.data scene.memory

/-- Notes and pauses only go to the journal. -/
theorem log {scene : Scene T} {entry : Entry T} (isAct : entry.isActAt scene.stage.index = true)
    (sendsNothing : entry.sent? = none) (isNoRefusal : entry.isRefusal = false) :
    Acted scene (scene.log entry) [entry] where
  past := rfl
  areActs := by simpa using isAct
  stage := by
    have nothing : Journal.sent [entry] = [] := by simp [sendsNothing]
    have noRefusal : Journal.isRefused [entry] = false := by simp [isNoRefusal]
    rw [nothing, noRefusal]
    exact (scene.stage.acted_nil _).symm
  request?_of_isLast := by simp [sendsNothing]
  isLast_of_isRefused := by simp [isNoRefusal]

/-- A request that the last stage tries to send is refused. -/
theorem sendRequest_of_isLast {scene : Scene T} (last : scene.stage.isLast = true)
    (request : T.Request) :
    (scene.sendRequest request).1 = .error (.noDownstream scene.stage.index) ∧
      Acted scene (scene.sendRequest request).2 [.refused scene.stage.index] := by
  have refused := Stage.sendRequest_of_isLast last request
  refine ⟨?_, ?_, ?_, ?_, ?_, ?_⟩
  · simp [Scene.sendRequest, refused]
  · simp [Scene.sendRequest, refused]
  · simp [Entry.isActAt]
  · simp [Scene.sendRequest, refused, Entry.sent?, Entry.isRefusal, Stage.acted]
  · simp [Entry.sent?]
  · simp [last]

/-- A request that another stage sends is sent. -/
theorem sendRequest_of_not_isLast {scene : Scene T} (notLast : scene.stage.isLast = false)
    (request : T.Request) :
    (scene.sendRequest request).1 = .ok () ∧ Acted scene (scene.sendRequest request).2
      [.sent scene.stage.index (.request request)] := by
  have sent := Stage.sendRequest_of_not_isLast notLast request
  refine ⟨?_, ?_, ?_, ?_, ?_, ?_⟩
  · simp [Scene.sendRequest, sent]
  · simp [Scene.sendRequest, sent]
  · simp [Entry.isActAt]
  · simp [Scene.sendRequest, sent, Entry.sent?, Entry.isRefusal, Stage.acted]
  · simp [notLast]
  · simp [Entry.isRefusal]

/-- A request is one act, whether it is sent or refused. -/
theorem sendRequest (scene : Scene T) (request : T.Request) :
    ∃ entry, Acted scene (scene.sendRequest request).2 [entry] := by
  cases last : scene.stage.isLast with
  | true => exact ⟨_, (sendRequest_of_isLast last request).2⟩
  | false => exact ⟨_, (sendRequest_of_not_isLast last request).2⟩

/-- A reply is one act, or two where it comes late. -/
theorem sendReply (scene : Scene T) (reply : Reply T.Response) :
    ∃ acts, Acted scene (scene.sendReply reply) acts ∧
      Journal.sent acts = [.response reply] ∧ Journal.isRefused acts = false := by
  -- The warning about a late reply stands before the reply in the journal.
  let warnings : List (Entry T) :=
    if scene.stage.eop then
      [.logged (.lateResponse scene.stage.index scene.stage.processor reply.isEop)]
    else []
  let acts : List (Entry T) := .sent scene.stage.index (.response reply) :: warnings
  have sent : Journal.sent acts = [.response reply] := by
    cases late : scene.stage.eop <;> simp [acts, warnings, late, Entry.sent?]
  have notRefused : Journal.isRefused acts = false := by
    cases late : scene.stage.eop <;> simp [acts, warnings, late, Entry.isRefusal]
  refine ⟨acts, ⟨?_, ?_, ?_, ?_, ?_⟩, sent, notRefused⟩
  · cases late : scene.stage.eop <;> simp [acts, warnings, Scene.sendReply, late]
  · cases late : scene.stage.eop <;> simp [acts, warnings, late, Entry.isActAt]
  · rw [sent, notRefused]
    show scene.stage.sendReply reply = _
    rw [Stage.sendReply_eq_acted]
    exact congrArg (scene.stage.acted · _ _)
      (congrArg Stage.data (Stage.sendReply_eq_acted scene.stage reply)).symm
  · simp [sent, Outgoing.request?]
  · simp [notRefused]

/-- Acts after acts. -/
theorem trans {first second third : Scene T} {early late : List (Entry T)}
    (before : Acted first second early) (after : Acted second third late) :
    Acted first third (late ++ early) := by
  have sameIndex : second.stage.index = first.stage.index := by rw [before.stage]; rfl
  have sameLast : second.stage.isLast = first.stage.isLast := by rw [before.stage]; rfl
  refine ⟨?_, ?_, ?_, ?_, ?_⟩
  · rw [after.past, before.past, List.append_assoc]
  · intro entry member
    rcases List.mem_append.mp member with isLate | isEarly
    · exact sameIndex ▸ after.areActs entry isLate
    · exact before.areActs entry isEarly
  · rw [after.stage, before.stage, Stage.acted_acted, Journal.sent_append,
      Journal.isRefused_append, Bool.or_comm]
    rfl
  · intro last message member
    rw [Journal.sent_append] at member
    rcases List.mem_append.mp member with isEarly | isLate
    · exact before.request?_of_isLast last message isEarly
    · exact after.request?_of_isLast (sameLast.trans last) message isLate
  · intro refused
    rw [Journal.isRefused_append, Bool.or_eq_true] at refused
    rcases refused with isLate | isEarly
    · exact sameLast ▸ after.isLast_of_isRefused isLate
    · exact before.isLast_of_isRefused isEarly

end Scene.Acted

/-! ## (3) Polls -/

/-- **The scenes that a poll goes through**, from the one that it starts on. -/
def scenes : Callback T α → Scene T → List (Scene T)
  | done _, scene => [scene]
  | fail _, scene => [scene]
  | pause _, scene => [scene, scene.log (.paused scene.stage.index)]
  | look next, scene => (next scene.stage.view).scenes scene
  | keep data next, scene =>
    scene :: next.scenes { scene with stage := { scene.stage with data } }
  | sendRequest request next, scene =>
    let (result, later) := scene.sendRequest request
    scene :: (next result).scenes later
  | sendReply reply next, scene => scene :: next.scenes (scene.sendReply reply)
  | note entry next, scene =>
    scene :: next.scenes (scene.log (.noted scene.stage.index entry))
  | consult next, scene => (next scene.memory).scenes scene
  | remember memory next, scene => scene :: next.scenes { scene with memory }

/-- The scene that a poll ends with is one of them. -/
theorem poll_mem_scenes (callback : Callback T α) (scene : Scene T) :
    (callback.poll scene).2 ∈ callback.scenes scene := by
  induction callback generalizing scene with
  | done _ => exact List.mem_singleton_self _
  | fail _ => exact List.mem_singleton_self _
  | pause _ => exact List.mem_cons_of_mem _ (List.mem_singleton_self _)
  | look _ ih => exact ih _ scene
  | keep _ _ ih => exact List.mem_cons_of_mem _ (ih _)
  | sendRequest _ _ ih => exact List.mem_cons_of_mem _ (ih _ _)
  | sendReply _ _ ih => exact List.mem_cons_of_mem _ (ih _)
  | note _ _ ih => exact List.mem_cons_of_mem _ (ih _)
  | consult _ ih => exact ih _ scene
  | remember _ _ ih => exact List.mem_cons_of_mem _ (ih _)

/-- **What has happened on the way to a scene** are acts of the stage. -/
theorem acted_of_mem_scenes {callback : Callback T α} {scene later : Scene T}
    (passed : later ∈ callback.scenes scene) : ∃ acts, scene.Acted later acts := by
  -- Along the callback: each operation is one act or none, on the scene that the next one finds.
  induction callback generalizing scene with
  | done _ =>
    obtain rfl := List.mem_singleton.mp passed
    exact ⟨[], .refl later⟩
  | fail _ =>
    obtain rfl := List.mem_singleton.mp passed
    exact ⟨[], .refl later⟩
  | pause _ =>
    rcases List.mem_cons.mp passed with rfl | last
    · exact ⟨[], .refl later⟩
    · obtain rfl := List.mem_singleton.mp last
      exact ⟨_, .log (by simp [Entry.isActAt]) rfl rfl⟩
  | look _ ih => exact ih _ passed
  | keep data _ ih =>
    rcases List.mem_cons.mp passed with rfl | late
    · exact ⟨[], .refl later⟩
    · obtain ⟨acts, acted⟩ := ih late
      exact ⟨_, (Scene.Acted.keep scene data scene.memory).trans acted⟩
  | sendRequest request _ ih =>
    rcases List.mem_cons.mp passed with rfl | late
    · exact ⟨[], .refl later⟩
    · obtain ⟨entry, sent⟩ := Scene.Acted.sendRequest scene request
      obtain ⟨acts, acted⟩ := ih _ late
      exact ⟨_, sent.trans acted⟩
  | sendReply reply _ ih =>
    rcases List.mem_cons.mp passed with rfl | late
    · exact ⟨[], .refl later⟩
    · obtain ⟨sending, sent, -, -⟩ := Scene.Acted.sendReply scene reply
      obtain ⟨acts, acted⟩ := ih late
      exact ⟨_, sent.trans acted⟩
  | note entry _ ih =>
    rcases List.mem_cons.mp passed with rfl | late
    · exact ⟨[], .refl later⟩
    · obtain ⟨acts, acted⟩ := ih late
      exact ⟨_, (Scene.Acted.log (by simp [Entry.isActAt]) rfl rfl).trans acted⟩
  | consult _ ih => exact ih _ passed
  | remember memory _ ih =>
    rcases List.mem_cons.mp passed with rfl | late
    · exact ⟨[], .refl later⟩
    · obtain ⟨acts, acted⟩ := ih late
      exact ⟨_, (Scene.Acted.keep scene scene.stage.data memory).trans acted⟩

/-- **A poll only acts**: whatever a callback does until it pauses or ends, the scene changes by
acts of its stage. -/
theorem poll_acted (callback : Callback T α) (scene : Scene T) :
    ∃ acts, Scene.Acted scene (callback.poll scene).2 acts :=
  acted_of_mem_scenes (callback.poll_mem_scenes scene)

end Callback

end Relay
