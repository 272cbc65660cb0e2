import Relay.Run.Journal

/-!
# Callbacks

What a processor does with a message: a tree of the operations that a stage offers, each with what
comes next. A callback may pause; it then goes on at the next poll with whatever it was about to do.
Since a callback has no other way to act, it can neither touch another stage nor see what its stage
does not show.
-/

namespace Relay

/-- **A callback** that yields an `α`. -/
inductive Callback (T : Traffic) (α : Type) where
  /-- It ends with a result. -/
  | done (result : α)
  /-- It fails. -/
  | fail (failure : Failure)
  /-- It pauses until the next poll. -/
  | pause (next : Callback T α)
  /-- It looks at its stage. -/
  | look (next : StageView T → Callback T α)
  /-- It replaces the data of its stage. -/
  | keep (data : StageData T.Value) (next : Callback T α)
  /-- It sends a request to the next stage and learns whether that was possible. -/
  | sendRequest (request : T.Request) (next : Except SendError Unit → Callback T α)
  /-- It sends a reply to the stage before. -/
  | sendReply (reply : Reply T.Response) (next : Callback T α)
  /-- It notes something down for whoever watches the run. -/
  | note (note : T.Note) (next : Callback T α)
  /-- It consults what processors remember outside their stages. -/
  | consult (next : T.Memory → Callback T α)
  /-- It changes what processors remember outside their stages. -/
  | remember (memory : T.Memory) (next : Callback T α)

namespace Callback

variable {T : Traffic} {α β : Type}

/-! ## (1) Composition -/

/-- One callback after another. -/
def bind : Callback T α → (α → Callback T β) → Callback T β
  | done result, f => f result
  | fail failure, _ => fail failure
  | pause next, f => pause (next.bind f)
  | look next, f => look fun view => (next view).bind f
  | keep data next, f => keep data (next.bind f)
  | sendRequest request next, f => sendRequest request fun result => (next result).bind f
  | sendReply reply next, f => sendReply reply (next.bind f)
  | note entry next, f => note entry (next.bind f)
  | consult next, f => consult fun memory => (next memory).bind f
  | remember memory next, f => remember memory (next.bind f)

instance : Monad (Callback T) where
  pure := done
  bind := bind

/-! ## (2) Operations -/

/-- The callback that does nothing. -/
def nothing : Callback T Unit := done ()

/-- Looking at the stage. -/
def view : Callback T (StageView T) := look done

/-- Sending a request, failing if that is impossible. -/
def forwardRequest (request : T.Request) : Callback T Unit :=
  sendRequest request fun
    | .ok () => nothing
    | .error error => fail error.toFailure

/-- Sending a reply. -/
def send (reply : Reply T.Response) : Callback T Unit := sendReply reply nothing

/-- Sending items in order, and then going on. -/
def sendItems (items : List T.Response) (next : Callback T α) : Callback T α :=
  items.foldr (fun item rest => sendReply (.item item) rest) next

/-- Sending the end of the pipe. -/
def sendEop : Callback T Unit := send .eop

/-- Noting something down. -/
def write (entry : T.Note) : Callback T Unit := note entry nothing

/-- Pausing once. -/
def yield : Callback T Unit := pause nothing

/-- **The callback without its pauses.** -/
def unpaused : Callback T α → Callback T α
  | done result => done result
  | fail failure => fail failure
  | pause next => next.unpaused
  | look next => look fun view => (next view).unpaused
  | keep data next => keep data next.unpaused
  | sendRequest request next => sendRequest request fun result => (next result).unpaused
  | sendReply reply next => sendReply reply next.unpaused
  | note entry next => note entry next.unpaused
  | consult next => consult fun memory => (next memory).unpaused
  | remember memory next => remember memory next.unpaused

/-! ## (3) Polls -/

/-- **Where a poll leaves a callback**: at its end, or in a pause with the rest still to do. -/
inductive Status (T : Traffic) (α : Type) where
  | finished (result : Except Failure α)
  | waiting (rest : Callback T α)

/-- **What a callback acts on**: its stage, the memory of the processors, and the journal of the
run, latest entry first. -/
structure Scene (T : Traffic) where
  stage : Stage T
  memory : T.Memory
  past : List (Entry T)

/-- The scene with one more entry in the journal. -/
def Scene.log (scene : Scene T) (entry : Entry T) : Scene T :=
  { scene with past := entry :: scene.past }

/-- Sending a request on a scene. -/
def Scene.sendRequest (scene : Scene T) (request : T.Request) :
    Except SendError Unit × Scene T :=
  let (result, stage) := scene.stage.sendRequest request
  let entry : Entry T :=
    match result with
    | .ok () => .sent stage.index (.request request)
    | .error _ => .refused stage.index
  (result, { scene with stage, past := entry :: scene.past })

/-- Sending a reply on a scene. A stage that has sent its end of the pipe is warned about. -/
def Scene.sendReply (scene : Scene T) (reply : Reply T.Response) : Scene T :=
  let stage := scene.stage
  let past :=
    if stage.eop then
      .logged (.lateResponse stage.index stage.processor reply.isEop) :: scene.past
    else scene.past
  { scene with
    stage := stage.sendReply reply
    past := .sent stage.index (.response reply) :: past }

/-- **One poll**: the callback acts until it pauses or ends. -/
def poll : Callback T α → Scene T → Status T α × Scene T
  | done result, scene => (.finished (.ok result), scene)
  | fail failure, scene => (.finished (.error failure), scene)
  | pause next, scene => (.waiting next, scene.log (.paused scene.stage.index))
  | look next, scene => (next scene.stage.view).poll scene
  | keep data next, scene => next.poll { scene with stage := { scene.stage with data } }
  | sendRequest request next, scene =>
    let (result, scene) := scene.sendRequest request
    (next result).poll scene
  | sendReply reply next, scene => next.poll (scene.sendReply reply)
  | note entry next, scene => next.poll (scene.log (.noted scene.stage.index entry))
  | consult next, scene => (next scene.memory).poll scene
  | remember memory next, scene => next.poll { scene with memory }

/-- **A callback on a stage of its own**, polled to its end. -/
def runAlone (callback : Callback T α) (scene : Scene T) : Except Failure α × Scene T :=
  match callback.unpaused.poll scene with
  | (.finished result, scene) => (result, scene)
  | (.waiting _, scene) => (.error default, scene)

/-- A callback without pauses ends with its first poll. -/
theorem poll_unpaused (callback : Callback T α) (scene : Scene T) :
    ∃ result after, callback.unpaused.poll scene = (.finished result, after) := by
  induction callback generalizing scene with
  | done _ => exact ⟨_, _, rfl⟩
  | fail _ => exact ⟨_, _, rfl⟩
  | pause _ ih => exact ih scene
  | look _ ih => exact ih _ scene
  | keep _ _ ih => exact ih _
  | sendRequest _ _ ih => exact ih _ _
  | sendReply _ _ ih => exact ih _
  | note _ _ ih => exact ih _
  | consult _ ih => exact ih _ scene
  | remember _ _ ih => exact ih _

end Callback

end Relay
