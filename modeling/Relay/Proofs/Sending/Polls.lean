import Relay.Proofs.Sending.Split

/-!
# What a poll sends

The operations by which a callback sends are calls on its stage, and nothing else of it leaves the
stage. Which calls a poll makes depends on what the callback sees: its stage as it looks when the
poll starts, and what the processors remember. The journal is a true record of them: what it reports
as sent are the messages of these calls, in order, and so is what the outbox and the caller get.

* `Callback.calls` reads the calls off the callback, without a stage or a journal to act on.
* `Callback.made_poll` says that a poll makes these calls, by induction on the operations.
* `Callback.poll_sends` is the result.
-/

namespace Relay

variable {T : Traffic} {α : Type}

/-! ## (1) What a processor sees of a stage that acts -/

/-- Acting shows in the data of a stage, and in whether it has ended. -/
theorem Stage.view_acted (stage : Stage T) (data : StageData T.Value) (sent : List (Outgoing T))
    (isRefused : Bool) : (stage.acted data sent isRefused).view =
      { stage.view with data, eop := stage.eop || sent.any Outgoing.isEop } := rfl

namespace SendCall

/-- A call leaves a view in which only the end of the pipe may be new. -/
theorem view_run (scene : Callback.Scene T) (call : SendCall T) :
    (call.run scene).2.stage.view =
      { scene.stage.view with eop := scene.stage.eop || call.message.isEop } := by
  have sent := (made_run scene call).2.stage_eq
  rw [sent, Stage.view_acted, any_isEop_sentBy, (run_keeps scene call).2]
  simp [Stage.view]

end SendCall

namespace Callback

/-! ## (2) The calls of a poll -/

/-- **The calls of a poll**, in order: those that the callback makes until it pauses or ends, given
what it sees of its stage and what the processors remember. -/
def calls : Callback T α → StageView T → T.Memory → List (SendCall T)
  | done _, _, _ => []
  | fail _, _, _ => []
  | pause _, _, _ => []
  | look next, view, memory => (next view).calls view memory
  | keep data next, view, memory => next.calls { view with data } memory
  | sendRequest request next, view, memory =>
    let answer := if view.isLast then .error (.noDownstream view.index) else .ok ()
    .sendRequest request :: (next answer).calls view memory
  | sendReply reply next, view, memory =>
    .sendReply reply :: next.calls { view with eop := view.eop || reply.isEop } memory
  | note _ next, view, memory => next.calls view memory
  | consult next, view, memory => (next memory).calls view memory
  | remember memory next, view, _ => next.calls view memory

/-- **A poll makes its calls.** -/
theorem made_poll (callback : Callback T α) (scene : Scene T) :
    SendCall.Made scene (callback.poll scene).2
      (callback.calls scene.stage.view scene.memory) := by
  -- Along the callback: what it sees after each operation is what the next one starts with.
  induction callback generalizing scene with
  | done _ => exact .keep scene scene.stage.data scene.memory
  | fail _ => exact .keep scene scene.stage.data scene.memory
  | pause _ => exact .log (by simp [Entry.isActAt]) rfl rfl rfl
  | look _ ih => exact ih _ scene
  | keep data _ ih => exact (SendCall.Made.keep scene data scene.memory).append (ih _)
  | sendRequest request next ih =>
    obtain ⟨answered, sent⟩ := SendCall.made_run scene (.sendRequest request)
    have answer : (scene.sendRequest request).1 =
        if scene.stage.view.isLast then .error (.noDownstream scene.stage.view.index)
        else .ok () := by
      refine answered.trans ?_
      rw [SendCall.answerOf, SendCall.isRefusedBy, SendCall.isRequest, SendCall.message,
        Outgoing.request?, Option.isSome_some, Bool.and_true]
      rfl
    have view : (scene.sendRequest request).2.stage.view = scene.stage.view := by
      refine (SendCall.view_run scene (.sendRequest request)).trans ?_
      rw [SendCall.message, Outgoing.isEop, Bool.or_false]
      rfl
    have memory : (scene.sendRequest request).2.memory = scene.memory :=
      (SendCall.run_keeps scene (.sendRequest request)).1
    have others := ih (scene.sendRequest request).1 (scene.sendRequest request).2
    rw [view, memory] at others
    rw [calls, ← answer]
    exact sent.append others
  | sendReply reply next ih =>
    have sent := (SendCall.made_run scene (.sendReply reply)).2
    have view : (scene.sendReply reply).stage.view =
        { scene.stage.view with eop := scene.stage.eop || reply.isEop } :=
      SendCall.view_run scene (.sendReply reply)
    have others := ih (scene.sendReply reply)
    rw [view] at others
    exact sent.append others
  | note entry _ ih =>
    exact (SendCall.Made.log (by simp [Entry.isActAt]) rfl rfl rfl).append (ih _)
  | consult _ ih => exact ih _ scene
  | remember memory _ ih => exact (SendCall.Made.keep scene scene.stage.data memory).append (ih _)

/-! ## (3) The result -/

/-- **A poll sends the messages of its calls**, all but the requests that the last stage is to send.
What the journal gets in the course of the poll are acts of this one stage, and among them these
messages, in the order of the calls. The outbox and the queue of the caller share them, each in the
same order; they raise the flag for the end of the pipe, and the requests that are refused raise the
one for violations. Nothing else of the stage is new but its data. -/
theorem poll_sends (callback : Callback T α) (scene : Scene T) :
    let stage := scene.stage
    let after := (callback.poll scene).2
    let messages := (callback.calls stage.view scene.memory).map SendCall.message
    let sent := messages.filter fun message => !(stage.isLast && message.request?.isSome)
    (∃ acts, after.past = acts ++ scene.past ∧
      (∀ entry ∈ acts, entry.isActAt stage.index = true) ∧ Journal.sent acts = sent) ∧
    after.stage =
      { stage with
        data := after.stage.data
        outbox := stage.outbox ++ stage.toNeighbours sent
        caller := stage.caller.map fun queue => queue ++ stage.toCaller sent
        eop := stage.eop || sent.any Outgoing.isEop
        violation := stage.violation || (stage.isLast && messages.any (·.request?.isSome)) } := by
  intro stage after messages sent
  have made := callback.made_poll scene
  have sentBy_eq : SendCall.sentBy stage (callback.calls stage.view scene.memory) = sent :=
    SendCall.sentBy_eq_filter stage _
  constructor
  · obtain ⟨acts, warned, sentActs, -⟩ := made
    exact ⟨acts, warned.past, warned.areActs, sentActs.trans sentBy_eq⟩
  · have violation : after.stage.violation =
        (stage.violation || (stage.isLast && messages.any (·.request?.isSome))) := by
      rw [List.any_map]
      exact made.violation
    rw [← violation, made.stage_eq, sentBy_eq]
    rfl

end Callback

end Relay
