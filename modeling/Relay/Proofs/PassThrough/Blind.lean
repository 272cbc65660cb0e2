import Relay.Processor.Stock
import Relay.Proofs.Acting

/-!
# Blind processors

A processor is blind if it does not look at where its stage stands and how much waits there, nor at
the wording of a refusal to send. It may well notice that its stage is the first or the last one,
and that it has been refused; only a failure that it ends with afterwards may tell more, because the
run then fails for the refusal and drops that failure.

* `Callback.Alike` relates callbacks that differ in no other way, and `Processor.IsBlind` says that
  the callbacks of a processor are alike to themselves.
* `Callback.poll_alike` says that alike callbacks do the same on alike scenes.
-/

namespace Relay

variable {T : Traffic} {α : Type}

/-! ## (1) Alike callbacks -/

/-- **Alike views** differ at most in place, number of stages and numbers of waiting messages. -/
structure StageView.Alike (first second : StageView T) : Prop where
  processor : second.processor = first.processor
  runId : second.runId = first.runId
  metadata : second.metadata = first.metadata
  eop : second.eop = first.eop
  data : second.data = first.data
  isFirst : second.isFirst = first.isFirst
  isLast : second.isLast = first.isLast

/-- **Alike results** are the same, except for a failure that will be dropped. -/
inductive Result.Alike (dropped : Bool) : Except Failure α → Except Failure α → Prop where
  | ok (result : α) : Alike dropped (.ok result) (.ok result)
  | error (first second : Failure) (same : dropped = false → second = first) :
      Alike dropped (.error first) (.error second)

namespace Callback

/-- **Alike callbacks** do the same things in the same order, as long as their views are alike. The
flag tells whether a request has been refused, after which failures need not be the same. -/
inductive Alike : Bool → Callback T α → Callback T α → Prop where
  | done {dropped : Bool} (result : α) : Alike dropped (done result) (done result)
  | fail {dropped : Bool} (first second : Failure) (same : dropped = false → second = first) :
      Alike dropped (fail first) (fail second)
  | pause {dropped : Bool} {first second : Callback T α} (next : Alike dropped first second) :
      Alike dropped (pause first) (pause second)
  | look {dropped : Bool} {first second : StageView T → Callback T α}
      (next : ∀ view other, view.Alike other → Alike dropped (first view) (second other)) :
      Alike dropped (look first) (look second)
  | keep {dropped : Bool} (data : StageData T.Value) {first second : Callback T α}
      (next : Alike dropped first second) : Alike dropped (keep data first) (keep data second)
  | sendRequest {dropped : Bool} (request : T.Request)
      {first second : Except SendError Unit → Callback T α}
      (sent : Alike dropped (first (.ok ())) (second (.ok ())))
      (refused : ∀ error other, Alike true (first (.error error)) (second (.error other))) :
      Alike dropped (sendRequest request first) (sendRequest request second)
  | sendReply {dropped : Bool} (reply : Reply T.Response) {first second : Callback T α}
      (next : Alike dropped first second) :
      Alike dropped (sendReply reply first) (sendReply reply second)
  | note {dropped : Bool} (entry : T.Note) {first second : Callback T α}
      (next : Alike dropped first second) : Alike dropped (note entry first) (note entry second)
  | consult {dropped : Bool} {first second : T.Memory → Callback T α}
      (next : ∀ memory, Alike dropped (first memory) (second memory)) :
      Alike dropped (consult first) (consult second)
  | remember {dropped : Bool} (memory : T.Memory) {first second : Callback T α}
      (next : Alike dropped first second) :
      Alike dropped (remember memory first) (remember memory second)

/-- **Alike states after a poll.** -/
inductive Status.Alike (dropped : Bool) : Status T α → Status T α → Prop where
  | finished {first second : Except Failure α} (results : Result.Alike dropped first second) :
      Alike dropped (.finished first) (.finished second)
  | waiting {first second : Callback T α} (rest : Callback.Alike dropped first second) :
      Alike dropped (.waiting first) (.waiting second)

end Callback

/-! ## (2) Blind processors -/

/-- **A blind processor.** -/
def Processor.IsBlind (processor : Processor T) : Prop :=
  ∀ message, Callback.Alike false (processor.handle message) (processor.handle message)

namespace Callback

/-- Doing nothing takes no look. -/
theorem alike_nothing (dropped : Bool) : Alike dropped (nothing (T := T)) nothing := .done ()

/-- Sending a reply takes no look. -/
theorem alike_send (dropped : Bool) (reply : Reply T.Response) :
    Alike dropped (send reply) (send reply) := .sendReply reply (alike_nothing dropped)

/-- Forwarding a request takes no look, and may fail with the refusal. -/
theorem alike_forwardRequest (request : T.Request) :
    Alike false (forwardRequest request) (forwardRequest request) :=
  .sendRequest request (alike_nothing false) fun error other =>
    .fail error.toFailure other.toFailure fun kept => by cases kept

/-- Sending items takes no look. -/
theorem alike_sendItems {dropped : Bool} (items : List T.Response) {next : Callback T α}
    (alike : Alike dropped next next) :
    Alike dropped (sendItems items next) (sendItems items next) := by
  induction items with
  | nil => exact alike
  | cons item rest ih => exact .sendReply (.item item) ih

end Callback

namespace Processor

/-- **Forwarding everything is blind.** -/
theorem isBlind_passThrough (name : String) : (passThrough (T := T) name).IsBlind := by
  intro message
  cases message with
  | request request => exact Callback.alike_forwardRequest request
  | response reply => exact Callback.alike_send false reply

/-- Always giving the same answer is blind. -/
theorem isBlind_terminal (shownItem : T.Response → Text.Shown) (name : String)
    (responses : List T.Response) : (terminal shownItem name responses).IsBlind := by
  intro message
  cases message with
  | request request => exact Callback.alike_sendItems responses (Callback.alike_send false .eop)
  | response reply => exact Callback.alike_send false reply

end Processor

/-! ## (3) Alike scenes -/

/-- **Alike stages** differ at most in place, number of stages and what waits there. -/
structure Stage.Alike (first second : Stage T) : Prop where
  processor : second.processor = first.processor
  runId : second.runId = first.runId
  metadata : second.metadata = first.metadata
  data : second.data = first.data
  outbox : second.outbox = first.outbox
  caller : second.caller = first.caller
  eop : second.eop = first.eop
  violation : second.violation = first.violation
  isFirst : second.view.isFirst = first.view.isFirst
  isLast : second.isLast = first.isLast

namespace Stage.Alike

variable {first second : Stage T}

/-- Alike stages have alike views. -/
theorem view (alike : first.Alike second) : first.view.Alike second.view :=
  ⟨alike.processor, alike.runId, alike.metadata, alike.eop, alike.data, alike.isFirst, alike.isLast⟩

/-- Alike stages send their items to the same place. -/
theorem feedsCaller (alike : first.Alike second) : second.feedsCaller = first.feedsCaller := by
  rw [Stage.feedsCaller, Stage.feedsCaller, alike.caller]
  exact congrArg (· && _) alike.isFirst

/-- **Alike stages stay so** when the same is done on them. -/
theorem acted (alike : first.Alike second) (data : StageData T.Value) (sent : List (Outgoing T))
    (isRefused : Bool) :
    (first.acted data sent isRefused).Alike (second.acted data sent isRefused) where
  processor := alike.processor
  runId := alike.runId
  metadata := alike.metadata
  data := rfl
  outbox := by
    have neighbours : second.toNeighbours sent = first.toNeighbours sent := by
      rw [toNeighbours, toNeighbours, alike.feedsCaller]
    show second.outbox ++ second.toNeighbours sent = first.outbox ++ first.toNeighbours sent
    rw [alike.outbox, neighbours]
  caller := by
    have items : second.toCaller sent = first.toCaller sent := by
      rw [toCaller, toCaller, alike.feedsCaller]
    show second.caller.map (· ++ second.toCaller sent) = first.caller.map (· ++ first.toCaller sent)
    rw [alike.caller, items]
  eop := congrArg (· || _) alike.eop
  violation := congrArg (· || _) alike.violation
  isFirst := alike.isFirst
  isLast := alike.isLast

/-- Stages stay alike without what has been sent. -/
theorem clearOutbox (alike : first.Alike second) : first.clearOutbox.Alike second.clearOutbox :=
  ⟨alike.processor, alike.runId, alike.metadata, alike.data, rfl, alike.caller, alike.eop,
    alike.violation, alike.isFirst, alike.isLast⟩

/-- Stages stay alike without the items for the caller. -/
theorem clearCaller (alike : first.Alike second) : first.clearCaller.Alike second.clearCaller :=
  ⟨alike.processor, alike.runId, alike.metadata, alike.data, alike.outbox,
    congrArg (Option.map fun _ => []) alike.caller, alike.eop, alike.violation, alike.isFirst,
    alike.isLast⟩

/-- Stages stay alike when it is forgotten that they have tried to send too far. -/
theorem clearViolation (alike : first.Alike second) :
    first.clearViolation.Alike second.clearViolation :=
  ⟨alike.processor, alike.runId, alike.metadata, alike.data, alike.outbox, alike.caller, alike.eop,
    rfl, alike.isFirst, alike.isLast⟩

end Stage.Alike

namespace Callback

/-- **Alike scenes**: alike stages, the same memory, and the same sent since the scenes began. -/
structure Scene.Alike (start other : List (Entry T)) (first second : Scene T) : Prop where
  stage : first.stage.Alike second.stage
  memory : second.memory = first.memory
  acts : ∃ acts others, first.past = acts ++ start ∧ second.past = others ++ other ∧
    Journal.sent others = Journal.sent acts ∧ Journal.isRefused others = Journal.isRefused acts

namespace Scene.Alike

variable {start other : List (Entry T)} {first second after late : Scene T}
  {acts others : List (Entry T)}

/-- **Alike scenes stay so** when the same is sent on them. -/
theorem acted (alike : Alike start other first second) (acting : Acted first after acts)
    (twin : Acted second late others) (memory : late.memory = after.memory)
    (data : late.stage.data = after.stage.data) (sent : Journal.sent others = Journal.sent acts)
    (refused : Journal.isRefused others = Journal.isRefused acts) :
    Alike start other after late := by
  obtain ⟨before, before', past, past', sentBefore, refusedBefore⟩ := alike.acts
  refine ⟨?_, memory, acts ++ before, others ++ before', ?_, ?_, ?_, ?_⟩
  · rw [acting.stage, twin.stage, data, sent, refused]
    exact alike.stage.acted _ _ _
  · rw [acting.past, past, List.append_assoc]
  · rw [twin.past, past', List.append_assoc]
  · rw [Journal.sent_append, Journal.sent_append, sentBefore, sent]
  · rw [Journal.isRefused_append, Journal.isRefused_append, refusedBefore, refused]

/-- The same has been sent and refused on alike scenes, whatever they have been before. -/
theorem sent_eq (alike : Alike start other first second) (past : first.past = acts ++ start)
    (twinPast : second.past = others ++ other) :
    Journal.sent others = Journal.sent acts ∧
      Journal.isRefused others = Journal.isRefused acts := by
  obtain ⟨acts', others', isPast, isTwinPast, sent, refused⟩ := alike.acts
  obtain rfl : acts' = acts := List.append_cancel_right (isPast.symm.trans past)
  obtain rfl : others' = others := List.append_cancel_right (isTwinPast.symm.trans twinPast)
  exact ⟨sent, refused⟩

/-- Notes and pauses make no difference. -/
theorem log (alike : Alike start other first second) {entry twin : Entry T}
    (isAct : entry.isActAt first.stage.index = true)
    (isTwinAct : twin.isActAt second.stage.index = true) (sendsNothing : entry.sent? = none)
    (twinSendsNothing : twin.sent? = none) (isNoRefusal : entry.isRefusal = false)
    (twinIsNoRefusal : twin.isRefusal = false) :
    Alike start other (first.log entry) (second.log twin) :=
  alike.acted (.log isAct sendsNothing isNoRefusal)
    (.log isTwinAct twinSendsNothing twinIsNoRefusal) alike.memory alike.stage.data
    (by simp [sendsNothing, twinSendsNothing])
    (by simp [isNoRefusal, twinIsNoRefusal])

/-- The same data make no difference. -/
theorem keep (alike : Alike start other first second) (data : StageData T.Value) :
    Alike start other { first with stage := { first.stage with data } }
      { second with stage := { second.stage with data } } :=
  alike.acted (.keep first data first.memory) (.keep second data second.memory) alike.memory rfl rfl
    rfl

/-- The same reply makes no difference. -/
theorem sendReply (alike : Alike start other first second) (reply : Reply T.Response) :
    Alike start other (first.sendReply reply) (second.sendReply reply) := by
  obtain ⟨acts, acting, sent, notRefused⟩ := Acted.sendReply first reply
  obtain ⟨others, twin, twinSent, twinNotRefused⟩ := Acted.sendReply second reply
  refine alike.acted acting twin alike.memory ?_ (twinSent.trans sent.symm)
    (twinNotRefused.trans notRefused.symm)
  show (second.stage.sendReply reply).data = (first.stage.sendReply reply).data
  rw [Stage.sendReply_eq_acted, Stage.sendReply_eq_acted]
  exact alike.stage.data

/-- **The same request is sent or refused** on both scenes. -/
theorem sendRequest (alike : Alike start other first second) (request : T.Request) :
    Alike start other (first.sendRequest request).2 (second.sendRequest request).2 ∧
      (((first.sendRequest request).1 = .ok () ∧ (second.sendRequest request).1 = .ok () ∧
          (first.sendRequest request).2.stage.violation = first.stage.violation) ∨
        ∃ error twin, (first.sendRequest request).1 = .error error ∧
          (second.sendRequest request).1 = .error twin ∧
          (first.sendRequest request).2.stage.violation = true) := by
  cases last : first.stage.isLast with
  | true =>
    obtain ⟨isError, acting⟩ := Acted.sendRequest_of_isLast last request
    obtain ⟨twinIsError, twin⟩ :=
      Acted.sendRequest_of_isLast (alike.stage.isLast.trans last) request
    have data : (second.sendRequest request).2.stage.data =
        (first.sendRequest request).2.stage.data := by
      simp only [Scene.sendRequest, Stage.sendRequest, last, alike.stage.isLast, if_true]
      exact alike.stage.data
    refine ⟨alike.acted acting twin alike.memory data rfl rfl,
      .inr ⟨_, _, isError, twinIsError, ?_⟩⟩
    rw [acting.stage]
    exact Bool.or_true _
  | false =>
    obtain ⟨isOk, acting⟩ := Acted.sendRequest_of_not_isLast last request
    obtain ⟨twinIsOk, twin⟩ :=
      Acted.sendRequest_of_not_isLast (alike.stage.isLast.trans last) request
    have data : (second.sendRequest request).2.stage.data =
        (first.sendRequest request).2.stage.data := by
      simp only [Scene.sendRequest, Stage.sendRequest, last, alike.stage.isLast, if_false,
        Bool.false_eq_true]
      exact alike.stage.data
    refine ⟨alike.acted acting twin alike.memory data rfl rfl, .inl ⟨isOk, twinIsOk, ?_⟩⟩
    rw [acting.stage]
    exact Bool.or_false _

end Scene.Alike

/-- **Alike callbacks do the same on alike scenes**, until the next pause or the end. -/
theorem poll_alike {dropped : Bool} {callback twin : Callback T α}
    (alike : Alike dropped callback twin) {start other : List (Entry T)} {first second : Scene T}
    (isDropped : first.stage.violation = dropped) (scenes : Scene.Alike start other first second) :
    Scene.Alike start other (callback.poll first).2 (twin.poll second).2 ∧
      Status.Alike (callback.poll first).2.stage.violation (callback.poll first).1
        (twin.poll second).1 := by
  -- Along the callbacks; the flag is that of the stage, which a refused request raises.
  induction alike generalizing first second with
  | done result => exact ⟨scenes, .finished (.ok result)⟩
  | fail failure other same =>
    exact ⟨scenes, .finished (.error failure other fun kept => same (isDropped ▸ kept))⟩
  | pause next =>
    refine ⟨scenes.log ?_ ?_ rfl rfl rfl rfl, .waiting (isDropped ▸ next)⟩
    · simp [Entry.isActAt]
    · simp [Entry.isActAt]
  | look _ ih => exact ih _ _ scenes.stage.view isDropped scenes
  | keep data _ ih => exact ih isDropped (scenes.keep data)
  | sendRequest request _ _ ih refused =>
    obtain ⟨sent, ⟨isOk, twinIsOk, kept⟩ | ⟨error, twin, isError, twinIsError, violation⟩⟩ :=
      scenes.sendRequest request
    · simp only [poll, isOk, twinIsOk]
      exact ih (kept.trans isDropped) sent
    -- What the callbacks are told of the refusal is not the same, as it names the place.
    · simp only [poll, isError, twinIsError]
      exact refused error twin violation sent
  | sendReply reply _ ih =>
    refine ih ?_ (scenes.sendReply reply)
    show (first.stage.sendReply reply).violation = _
    rw [Stage.sendReply_eq_acted]
    exact (Bool.or_false _).trans isDropped
  | note entry _ ih =>
    refine ih isDropped (scenes.log ?_ ?_ rfl rfl rfl rfl)
    · simp [Entry.isActAt]
    · simp [Entry.isActAt]
  | consult _ ih =>
    simp only [poll, scenes.memory]
    exact ih first.memory isDropped scenes
  | remember memory _ ih => exact ih isDropped ⟨scenes.stage, rfl, scenes.acts⟩

end Callback

end Relay
