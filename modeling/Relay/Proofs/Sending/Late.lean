import Relay.Proofs.Acting

/-!
# Late replies

A stage may go on sending after its end of the pipe. Whatever it replies from then on is late: it is
sent all the same, but the log warns about it.

* `Outgoing.late` picks the late replies among the messages of a stage, `Outgoing.late_append` says
  that they can be picked part by part.
* `Callback.Scene.Warned` are acts that are warned about wherever they are late, in the order in
  which they were sent; its lemmas say so of each kind of act, and of acts after acts.
-/

namespace Relay

variable {T : Traffic}

/-! ## (1) Which replies are late -/

/-- **The late replies** among the messages of a stage, which may have `ended` before it sent the
first of them. -/
def Outgoing.late (ended : Bool) : List (Outgoing T) → List (Reply T.Response)
  | [] => []
  | .request _ :: rest => late ended rest
  | .response reply :: rest =>
    if ended then reply :: late true rest else late reply.isEop rest

namespace Outgoing

/-- Late replies part by part. -/
theorem late_append (ended : Bool) (first second : List (Outgoing T)) :
    late ended (first ++ second) = late ended first ++ late (ended || first.any isEop) second := by
  induction first generalizing ended with
  | nil => simp [late]
  | cons message rest ih =>
    cases message with
    | request _ => simp [late, ih, isEop]
    | response reply => cases ended <;> simp [late, ih, isEop]

/-- Once a stage has ended, all its replies are late. -/
theorem late_true (sent : List (Outgoing T)) : late true sent = sent.filterMap reply? := by
  induction sent with
  | nil => rfl
  | cons message rest ih =>
    rw [List.filterMap_cons]
    cases message <;> simp [late, ih, reply?]

/-- Before that, the late ones are those behind the first end of the pipe. -/
theorem late_false (sent : List (Outgoing T)) :
    late false sent = ((sent.dropWhile (!·.isEop)).drop 1).filterMap reply? := by
  induction sent with
  | nil => rfl
  | cons message rest ih =>
    cases message with
    | request _ => simpa [late, isEop] using ih
    | response reply =>
      cases reply with
      | item _ => simpa [late, isEop] using ih
      | eop => simp [late, isEop, late_true]

end Outgoing

/-! ## (2) Warnings -/

/-- **What the log gets to hear** of the messages that a stage sends: a warning about each late
reply. -/
def Stage.warnings (stage : Stage T) (sent : List (Outgoing T)) : List Log.Record :=
  (Outgoing.late stage.eop sent).map fun reply =>
    .lateResponse stage.index stage.processor reply.isEop

/-- Warnings part by part: what has been sent first may have ended the pipe. -/
theorem Stage.warnings_append (stage : Stage T) (data : StageData T.Value) (isRefused : Bool)
    (first second : List (Outgoing T)) :
    stage.warnings (first ++ second) =
      stage.warnings first ++ (stage.acted data first isRefused).warnings second := by
  rw [warnings, warnings, warnings, Outgoing.late_append, List.map_append]
  rfl

namespace Callback

/-- **Acts that are warned about** wherever they are late. -/
structure Scene.Warned (scene after : Scene T) (acts : List (Entry T)) : Prop
    extends Scene.Acted scene after acts where
  records : Journal.records acts.reverse = scene.stage.warnings (Journal.sent acts)

namespace Scene.Warned

/-- New data and new memories are no reason to warn. -/
theorem keep (scene : Scene T) (data : StageData T.Value) (memory : T.Memory) :
    Warned scene { scene with stage := { scene.stage with data }, memory } [] :=
  ⟨.keep scene data memory, rfl⟩

/-- Nor are notes and pauses. -/
theorem log {scene : Scene T} {entry : Entry T} (isAct : entry.isActAt scene.stage.index = true)
    (sendsNothing : entry.sent? = none) (isNoRefusal : entry.isRefusal = false)
    (isNoRecord : entry.record? = none) : Warned scene (scene.log entry) [entry] where
  toActed := .log isAct sendsNothing isNoRefusal
  records := by
    simp [Journal.records, isNoRecord, sendsNothing, Stage.warnings, Outgoing.late]

/-- Nor is a request that is refused. -/
theorem sendRequest_of_isLast {scene : Scene T} (last : scene.stage.isLast = true)
    (request : T.Request) :
    Warned scene (scene.sendRequest request).2 [.refused scene.stage.index] where
  toActed := (Acted.sendRequest_of_isLast last request).2
  records := by
    simp [Journal.records, Entry.record?, Entry.sent?, Stage.warnings, Outgoing.late]

/-- Nor is one that is sent. -/
theorem sendRequest_of_not_isLast {scene : Scene T} (notLast : scene.stage.isLast = false)
    (request : T.Request) :
    Warned scene (scene.sendRequest request).2
      [.sent scene.stage.index (.request request)] where
  toActed := (Acted.sendRequest_of_not_isLast notLast request).2
  records := by
    simp [Journal.records, Entry.record?, Entry.sent?, Stage.warnings, Outgoing.late]

/-- **A reply is warned about** if its stage has ended before. -/
theorem sendReply (scene : Scene T) (reply : Reply T.Response) :
    ∃ acts, Warned scene (scene.sendReply reply) acts ∧
      Journal.sent acts = [.response reply] ∧ Journal.isRefused acts = false := by
  obtain ⟨acts, acted, sent, notRefused⟩ := Acted.sendReply scene reply
  refine ⟨acts, ⟨acted, ?_⟩, sent, notRefused⟩
  -- The acts are what the journal has grown by.
  have grown : (scene.sendReply reply).past = acts ++ scene.past := acted.past
  rw [sent]
  cases ended : scene.stage.eop with
  | true =>
    have acts_eq : acts = [.sent scene.stage.index (.response reply),
        .logged (.lateResponse scene.stage.index scene.stage.processor reply.isEop)] := by
      refine List.append_cancel_right (grown.symm.trans ?_)
      simp [Scene.sendReply, ended]
    simp [acts_eq, Journal.records, Entry.record?, Stage.warnings, Outgoing.late, ended]
  | false =>
    have acts_eq : acts = [.sent scene.stage.index (.response reply)] := by
      refine List.append_cancel_right (grown.symm.trans ?_)
      simp [Scene.sendReply, ended]
    simp [acts_eq, Journal.records, Entry.record?, Stage.warnings, Outgoing.late, ended]

/-- Acts after acts: what the first ones have sent makes the others late. -/
theorem trans {first second third : Scene T} {early late : List (Entry T)}
    (before : Warned first second early) (after : Warned second third late) :
    Warned first third (late ++ early) where
  toActed := before.toActed.trans after.toActed
  records := by
    have second_eq := before.stage
    rw [List.reverse_append, Journal.records, List.filterMap_append, ← Journal.records,
      ← Journal.records, before.records, after.records, second_eq, Journal.sent_append,
      ← Stage.warnings_append]

end Scene.Warned

end Callback

end Relay
