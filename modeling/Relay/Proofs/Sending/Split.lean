import Mathlib.Data.List.Basic
import Relay.Proofs.Sending.Late

/-!
# How sending splits

A processor sends through its stage by calls: requests to the next stage, and replies, be they given
as such, as items or as the end of the pipe. What is sent falls into two queues. The items of the
first stage go to the caller, if it is attached there; all else waits in the outbox. Both queues
keep the order of the calls. Two flags rise on the way and stay up: one with the first end of the
pipe, one with the first request that the last stage tries to send.

* `SendCall.runAll` makes several calls in order.
* `SendCall.Made` says of two scenes that calls have been made between them, in terms of the acts
  that are left in the journal; its lemmas say what has become of the stage.
* `SendCall.sending_splits` is the result.
-/

namespace Relay

open Callback (Scene)

variable {T : Traffic}

/-! ## (1) Calls -/

/-- **A call** by which a processor sends something through its stage. -/
inductive SendCall (T : Traffic) where
  | sendRequest (request : T.Request)
  | sendReply (reply : Reply T.Response)
  | sendItem (item : T.Response)
  | sendEop

namespace SendCall

/-- The message that a call is to send. -/
def message : SendCall T → Outgoing T
  | sendRequest request => .request request
  | sendReply reply => .response reply
  | sendItem item => .response (.item item)
  | sendEop => .response .eop

/-- Whether a call is to send a request. -/
def isRequest (call : SendCall T) : Bool := call.message.request?.isSome

/-- **A call on a scene**: its answer, and the scene afterwards. Only requests may be refused. -/
def run (scene : Scene T) : SendCall T → Except SendError Unit × Scene T
  | sendRequest request => scene.sendRequest request
  | sendReply reply => (.ok (), scene.sendReply reply)
  | sendItem item => (.ok (), scene.sendReply (.item item))
  | sendEop => (.ok (), scene.sendReply .eop)

/-- **Calls on a scene**, in order. -/
def runAll (scene : Scene T) : List (SendCall T) → List (Except SendError Unit) × Scene T
  | [] => ([], scene)
  | call :: rest =>
    let (answer, next) := call.run scene
    let (answers, last) := runAll next rest
    (answer :: answers, last)

/-- A call that sends a reply always succeeds. -/
theorem run_of_response {call : SendCall T} {reply : Reply T.Response}
    (isReply : call.message = .response reply) (scene : Scene T) :
    call.run scene = (.ok (), scene.sendReply reply) := by
  cases call <;> cases isReply <;> rfl

/-- A call that sends a request is answered by the stage. -/
theorem run_of_request {call : SendCall T} {request : T.Request}
    (isRequest : call.message = .request request) (scene : Scene T) :
    call.run scene = scene.sendRequest request := by
  cases call <;> cases isRequest
  rfl

/-! ## (2) What becomes of a call -/

/-- Whether a stage refuses a call: it is the last one, and asked to send a request. -/
def isRefusedBy (stage : Stage T) (call : SendCall T) : Bool := stage.isLast && call.isRequest

/-- The answer of a stage to a call. -/
def answerOf (stage : Stage T) (call : SendCall T) : Except SendError Unit :=
  if call.isRefusedBy stage then .error (.noDownstream stage.index) else .ok ()

/-- The messages that a stage sends when it is called. -/
def sentBy (stage : Stage T) (calls : List (SendCall T)) : List (Outgoing T) :=
  (calls.filter (!·.isRefusedBy stage)).map message

/-- What is sent at one call after the other. -/
theorem sentBy_append (stage : Stage T) (first rest : List (SendCall T)) :
    sentBy stage (first ++ rest) = sentBy stage first ++ sentBy stage rest := by
  rw [sentBy, List.filter_append, List.map_append]
  rfl

/-- **Calls that have been made** between two scenes: the acts on the way send what is not refused,
in order, and refuse a request exactly if the stage does. -/
def Made (scene after : Scene T) (calls : List (SendCall T)) : Prop :=
  ∃ acts, Scene.Warned scene after acts ∧
    Journal.sent acts = sentBy scene.stage calls ∧
    Journal.isRefused acts = calls.any (·.isRefusedBy scene.stage)

/-- **One call** sends its message, or is refused. -/
theorem made_run (scene : Scene T) (call : SendCall T) :
    (call.run scene).1 = call.answerOf scene.stage ∧ Made scene (call.run scene).2 [call] := by
  cases message : call.message with
  | request request =>
    have isRequest : call.isRequest = true := by simp [SendCall.isRequest, message,
      Outgoing.request?]
    rw [run_of_request message]
    cases last : scene.stage.isLast with
    | true =>
      have isRefused : call.isRefusedBy scene.stage = true := by simp [isRefusedBy, last, isRequest]
      refine ⟨?_, _, Scene.Warned.sendRequest_of_isLast last request, ?_, ?_⟩
      · rw [(Scene.Acted.sendRequest_of_isLast last request).1, answerOf, if_pos isRefused]
      · simp [sentBy, isRefused, Entry.sent?]
      · simp [isRefused, Entry.isRefusal]
    | false =>
      have isSent : call.isRefusedBy scene.stage = false := by simp [isRefusedBy, last]
      refine ⟨?_, _, Scene.Warned.sendRequest_of_not_isLast last request, ?_, ?_⟩
      · rw [(Scene.Acted.sendRequest_of_not_isLast last request).1, answerOf,
          if_neg (by simp [isSent])]
      · simp [sentBy, isSent, message, Entry.sent?]
      · simp [isSent, Entry.isRefusal]
  | response reply =>
    have isSent : call.isRefusedBy scene.stage = false := by
      simp [isRefusedBy, isRequest, message, Outgoing.request?]
    obtain ⟨acts, warned, sent, notRefused⟩ := Scene.Warned.sendReply scene reply
    rw [run_of_response message]
    refine ⟨?_, acts, warned, ?_, ?_⟩
    · rw [answerOf, if_neg (by simp [isSent])]
    · simp [sent, sentBy, isSent, message]
    · simp [notRefused, isSent]

/-- A call leaves the memory of the processors and the data of the stage alone. -/
theorem run_keeps (scene : Scene T) (call : SendCall T) :
    (call.run scene).2.memory = scene.memory ∧
      (call.run scene).2.stage.data = scene.stage.data := by
  have replies (reply : Reply T.Response) :
      (scene.sendReply reply).stage.data = scene.stage.data := by
    show (scene.stage.sendReply reply).data = scene.stage.data
    rw [Stage.sendReply_eq_acted]
    rfl
  cases call with
  | sendRequest request =>
    cases last : scene.stage.isLast <;>
      simp [run, Scene.sendRequest, Stage.sendRequest, last]
  | sendReply reply => exact ⟨rfl, replies reply⟩
  | sendItem item => exact ⟨rfl, replies (.item item)⟩
  | sendEop => exact ⟨rfl, replies .eop⟩

namespace Made

variable {scene middle after : Scene T} {calls first rest : List (SendCall T)}

/-- New data and new memories take no call. -/
theorem keep (scene : Scene T) (data : StageData T.Value) (memory : T.Memory) :
    Made scene { scene with stage := { scene.stage with data }, memory } [] :=
  ⟨[], .keep scene data memory, rfl, rfl⟩

/-- Nor do notes and pauses. -/
theorem log {entry : Entry T} (isAct : entry.isActAt scene.stage.index = true)
    (sendsNothing : entry.sent? = none) (isNoRefusal : entry.isRefusal = false)
    (isNoRecord : entry.record? = none) : Made scene (scene.log entry) [] :=
  ⟨[entry], .log isAct sendsNothing isNoRefusal isNoRecord, by simp [sendsNothing, sentBy],
    by simp [isNoRefusal]⟩

/-- **Calls after calls.** The stage refuses later what it refused before: it stays where it is. -/
theorem append (early : Made scene middle first) (late : Made middle after rest) :
    Made scene after (first ++ rest) := by
  obtain ⟨acts, warned, sent, refused⟩ := early
  obtain ⟨others, warnedLater, sentLater, refusedLater⟩ := late
  have sameRefusals : isRefusedBy middle.stage = isRefusedBy scene.stage := by
    funext call
    rw [warned.stage]
    rfl
  refine ⟨_, warned.trans warnedLater, ?_, ?_⟩
  · rw [Journal.sent_append, sent, sentLater, sentBy_append]
    simp only [sentBy, sameRefusals]
  · rw [Journal.isRefused_append, refused, refusedLater, sameRefusals, Bool.or_comm,
      List.any_append]

end Made

/-- **Several calls** send what is not refused, in order. -/
theorem made_runAll (scene : Scene T) (calls : List (SendCall T)) :
    (runAll scene calls).1 = calls.map (·.answerOf scene.stage) ∧
      (runAll scene calls).2.memory = scene.memory ∧
      (runAll scene calls).2.stage.data = scene.stage.data ∧
      Made scene (runAll scene calls).2 calls := by
  induction calls generalizing scene with
  | nil => exact ⟨rfl, rfl, rfl, .keep scene scene.stage.data scene.memory⟩
  | cons call rest ih =>
    obtain ⟨answer, first⟩ := made_run scene call
    obtain ⟨sameMemory, sameData⟩ := run_keeps scene call
    obtain ⟨answers, memory, data, others⟩ := ih (call.run scene).2
    have sameAnswers : answerOf (call.run scene).2.stage = answerOf scene.stage := by
      obtain ⟨acts, warned, -, -⟩ := first
      funext other
      rw [warned.stage]
      rfl
    refine ⟨?_, memory.trans sameMemory, data.trans sameData, first.append others⟩
    rw [List.map_cons, ← answer, ← sameAnswers, ← answers]
    rfl

/-- What is not refused, picked from all that was to be sent. -/
theorem sentBy_eq_filter (stage : Stage T) (calls : List (SendCall T)) :
    sentBy stage calls =
      (calls.map message).filter fun sent => !(stage.isLast && sent.request?.isSome) := by
  rw [sentBy, List.filter_map]
  rfl

/-- No item is refused. -/
theorem items_sentBy (stage : Stage T) (calls : List (SendCall T)) :
    (sentBy stage calls).filterMap Outgoing.item? =
      (calls.map message).filterMap Outgoing.item? := by
  rw [sentBy_eq_filter, List.filterMap_filter]
  refine List.filterMap_congr fun sent _ => ?_
  cases sent <;> simp [Outgoing.request?, Outgoing.item?]

/-- Nor is the end of the pipe. -/
theorem any_isEop_sentBy (stage : Stage T) (calls : List (SendCall T)) :
    (sentBy stage calls).any Outgoing.isEop = calls.any (·.message.isEop) := by
  rw [sentBy_eq_filter, List.any_filter, List.any_map]
  refine List.any_congr rfl fun call => ?_
  cases message : call.message <;> simp [message, Outgoing.request?, Outgoing.isEop]

/-! ## (3) Late calls -/

/-- **The late calls**: all of them where the stage has ended before, otherwise those behind the
first end of the pipe. -/
def late (stage : Stage T) (calls : List (SendCall T)) : List (SendCall T) :=
  if stage.eop then calls else (calls.dropWhile fun call => !call.message.isEop).drop 1

/-- A refusal has no part in what is late: it is a request that is refused. -/
theorem late_sentBy (stage : Stage T) (ended : Bool) (calls : List (SendCall T)) :
    Outgoing.late ended (sentBy stage calls) = Outgoing.late ended (calls.map message) := by
  induction calls generalizing ended with
  | nil => rfl
  | cons call rest ih =>
    have sent_cons : sentBy stage (call :: rest) = sentBy stage [call] ++ sentBy stage rest :=
      sentBy_append stage [call] rest
    have all_cons : (call :: rest).map message = [call].map message ++ rest.map message := rfl
    rw [sent_cons, all_cons, Outgoing.late_append, Outgoing.late_append, ih]
    cases refused : call.isRefusedBy stage with
    | false => simp [sentBy, refused]
    | true =>
      have isRequest : call.isRequest = true := (Bool.and_eq_true_iff.mp refused).2
      cases message : call.message with
      | request request => simp [sentBy, refused, message, Outgoing.late, Outgoing.isEop]
      | response reply => simp [SendCall.isRequest, message, Outgoing.request?] at isRequest

/-- **The warnings about calls** are about the replies of the late ones. -/
theorem warnings_sentBy (stage : Stage T) (calls : List (SendCall T)) :
    stage.warnings (sentBy stage calls) =
      ((late stage calls).filterMap (·.message.reply?)).map fun reply =>
        .lateResponse stage.index stage.processor reply.isEop := by
  have replies (calls : List (SendCall T)) :
      (calls.map message).filterMap Outgoing.reply? = calls.filterMap (·.message.reply?) := by
    rw [List.filterMap_map]
    rfl
  rw [Stage.warnings, late_sentBy, late]
  cases ended : stage.eop with
  | true => rw [Outgoing.late_true, replies, if_pos rfl]
  | false =>
    rw [Outgoing.late_false, List.dropWhile_map, ← List.map_drop, replies,
      if_neg Bool.false_ne_true]
    rfl

/-! ## (4) What becomes of the stage -/

namespace Made

variable {scene after : Scene T} {calls : List (SendCall T)}

/-- **The stage behind calls** has acted, and has nothing new but what it has sent. -/
theorem stage_eq (made : Made scene after calls) :
    after.stage = scene.stage.acted after.stage.data (sentBy scene.stage calls)
      (calls.any (·.isRefusedBy scene.stage)) := by
  obtain ⟨acts, warned, sent, refused⟩ := made
  rw [← sent, ← refused]
  exact warned.stage

/-- The outbox gets what is neither refused nor taken by the caller. -/
theorem outbox (made : Made scene after calls) :
    after.stage.outbox = scene.stage.outbox ++ (calls.map message).filter fun sent =>
      !(scene.stage.isLast && sent.request?.isSome) &&
        !(scene.stage.feedsCaller && sent.item?.isSome) := by
  rw [made.stage_eq, Stage.acted, Stage.toNeighbours, sentBy_eq_filter]
  cases scene.stage.feedsCaller <;> simp [List.filter_filter, Bool.and_comm]

/-- The queue of the caller gets the items of the first stage. -/
theorem caller (made : Made scene after calls) :
    after.stage.caller = scene.stage.caller.map fun queue => queue ++
      if scene.stage.index = 0 then (calls.map message).filterMap Outgoing.item? else [] := by
  rw [made.stage_eq, Stage.acted, Stage.toCaller, items_sentBy]
  cases attached : scene.stage.caller <;> simp [Stage.feedsCaller, attached]

/-- The flag for violations is raised by requests that the last stage is to send. -/
theorem violation (made : Made scene after calls) :
    after.stage.violation =
      (scene.stage.violation || (scene.stage.isLast && calls.any isRequest)) := by
  have refusals : (calls.any fun call => call.isRefusedBy scene.stage) =
      (scene.stage.isLast && calls.any isRequest) := by
    simp only [isRefusedBy]
    cases scene.stage.isLast <;> simp
  rw [made.stage_eq, ← refusals]
  rfl

/-- The flag for the end of the pipe is raised by whatever sends it. -/
theorem eop (made : Made scene after calls) :
    after.stage.eop = (scene.stage.eop || calls.any (·.message.isEop)) := by
  rw [made.stage_eq, ← any_isEop_sentBy scene.stage calls]
  rfl

/-- The log gets the warnings about late replies. -/
theorem records (made : Made scene after calls) :
    Journal.records after.past.reverse = Journal.records scene.past.reverse ++
      ((late scene.stage calls).filterMap (·.message.reply?)).map fun reply =>
        .lateResponse scene.stage.index scene.stage.processor reply.isEop := by
  obtain ⟨acts, warned, sent, -⟩ := made
  rw [warned.past, List.reverse_append, Journal.records, List.filterMap_append,
    ← Journal.records, ← Journal.records, warned.records, sent, warnings_sentBy]

end Made

/-! ## (5) The result -/

/-- **Sending splits what is sent, in order, and raises flags that stay up.** Whatever calls a
processor makes in a row, and wherever its stage stands:

* a request is refused exactly at the last stage, under the number of that stage;
* the outbox grows by the messages that are neither refused nor taken by the caller, the queue of
  the caller by the items, provided that it is attached to the first stage; both in the order of the
  calls, and the end of the pipe always by way of the outbox;
* a refusal raises the flag for violations, which is there until it is looked at and cleared, and
  then no more; the end of the pipe raises the flag for that, whatever is sent before or behind;
* each reply behind the first end of the pipe is warned about, in order, and nothing else is;
* nothing else changes: neither the queues of the stage nor its data, nor what processors
  remember. -/
theorem sending_splits (scene : Scene T) (calls : List (SendCall T)) :
    let stage := scene.stage
    let after := (runAll scene calls).2
    let isLast : Bool := stage.index + 1 = stage.stageCount
    let takesItems : Bool := stage.index = 0 ∧ stage.caller.isSome = true
    (runAll scene calls).1 = (calls.map fun call =>
      if isLast && call.isRequest then .error (.noDownstream stage.index) else .ok ()) ∧
    after.stage.outbox = stage.outbox ++ ((calls.map message).filter fun sent =>
      !(isLast && sent.request?.isSome) && !(takesItems && sent.item?.isSome)) ∧
    after.stage.caller = (stage.caller.map fun queue => queue ++
      if stage.index = 0 then (calls.map message).filterMap Outgoing.item? else []) ∧
    after.stage.violation = (stage.violation || (isLast && calls.any isRequest)) ∧
    after.stage.clearViolation = { after.stage with violation := false } ∧
    after.stage.eop = (stage.eop || calls.any (·.message.isEop)) ∧
    (∃ warnings, Journal.records after.past.reverse =
        Journal.records scene.past.reverse ++ warnings ∧
      warnings = ((late stage calls).filterMap (·.message.reply?)).map (fun reply =>
        .lateResponse stage.index stage.processor reply.isEop) ∧
      warnings.length = (late stage calls).countP (!·.isRequest) ∧
      ∀ record ∈ warnings, record.level = .warn ∧
        record.message = "Response sent after end-of-pipe") ∧
    after.memory = scene.memory ∧
    after.stage =
      { stage with
        outbox := after.stage.outbox
        caller := after.stage.caller
        eop := after.stage.eop
        violation := after.stage.violation } := by
  intro stage after isLast takesItems
  obtain ⟨answers, memory, data, made⟩ := made_runAll scene calls
  have isLast_eq : stage.isLast = isLast := rfl
  have feeds_eq : stage.feedsCaller = takesItems := by
    rw [Bool.eq_iff_iff]
    simp [Stage.feedsCaller, takesItems]
  refine ⟨?answers, ?outbox, made.caller, made.violation, rfl, made.eop, ?warnings, memory,
    ?frame⟩
  case answers =>
    rw [answers]
    refine List.map_congr_left fun call _ => ?_
    rw [answerOf, isRefusedBy, isLast_eq]
  case outbox =>
    rw [← feeds_eq]
    exact made.outbox
  case warnings =>
    refine ⟨_, made.records, rfl, ?_, ?_⟩
    · rw [List.length_map, List.length_filterMap_eq_countP]
      refine List.countP_congr fun call _ => ?_
      cases message : call.message <;> simp [isRequest, message, Outgoing.reply?, Outgoing.request?]
    · intro record member
      obtain ⟨reply, -, rfl⟩ := List.mem_map.mp member
      exact ⟨rfl, rfl⟩
  case frame =>
    rw [made.stage_eq, data]
    rfl

end SendCall

end Relay
