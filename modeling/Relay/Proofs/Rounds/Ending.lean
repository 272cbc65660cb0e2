import Relay.Proofs.Acting

/-!
# How callbacks end

What a callback sends may hang on what its stage keeps and on what processors remember. Where both
are known, so is how the callback ends, whatever else it sees, and however often it pauses: nobody
else touches them while it is in flight.

* `Callback.Ends` says what holds of a callback when it ends, and is computed along its operations.
* `Callback.nears_poll` says that a poll either brings a callback to such an end, or leaves a
  callback that comes to it.
-/

namespace Relay

variable {T : Traffic} {α : Type}

/-! ## (1) Endings -/

/-- **How a callback has ended**: what it has sent, whether a request of it was refused, its result,
and what its stage keeps and the processors remember then. -/
structure Ending (T : Traffic) where
  sent : List (Outgoing T)
  isRefused : Bool
  result : Except Failure Unit
  data : StageData T.Value
  memory : T.Memory

namespace Ending

/-- The ending of a callback that has sent some messages before, and had a request refused or
not. -/
def behind (ending : Ending T) (sent : List (Outgoing T)) (isRefused : Bool) : Ending T :=
  { ending with
    sent := sent ++ ending.sent
    isRefused := isRefused || ending.isRefused }

/-- What has been done before comes first. -/
theorem behind_behind (ending : Ending T) (early late : List (Outgoing T))
    (isRefused isRefusedLater : Bool) :
    (ending.behind late isRefusedLater).behind early isRefused =
      ending.behind (early ++ late) (isRefused || isRefusedLater) := by
  simp only [behind, List.append_assoc, Bool.or_assoc]

/-- Nothing has been done before. -/
@[simp] theorem behind_nil (ending : Ending T) : ending.behind [] false = ending := by
  simp [behind]

/-- **The ending of a callback that has ended well**, having sent some messages. -/
structure IsClean (sent : List (Outgoing T)) (leaves : StageData T.Value → T.Memory → Prop)
    (ending : Ending T) : Prop where
  sent : ending.sent = sent
  notRefused : ending.isRefused = false
  result : ending.result = .ok ()
  leaves : leaves ending.data ending.memory

end Ending

namespace Callback

/-- **What holds of a callback when it ends**, given whether its stage is the last one, what the
stage keeps, and what the processors remember. -/
def Ends (isLast : Bool) : Callback T Unit → StageData T.Value → T.Memory → (Ending T → Prop) → Prop
  | done _, data, memory, holds => holds ⟨[], false, .ok (), data, memory⟩
  | fail failure, data, memory, holds => holds ⟨[], false, .error failure, data, memory⟩
  | pause next, data, memory, holds => next.Ends isLast data memory holds
  | look next, data, memory, holds =>
    ∀ view : StageView T, view.data = data → (next view).Ends isLast data memory holds
  | keep data next, _, memory, holds => next.Ends isLast data memory holds
  | sendRequest request next, data, memory, holds =>
    if isLast then
      ∀ error, (next (.error error)).Ends isLast data memory fun ending =>
        holds (ending.behind [] true)
    else
      (next (.ok ())).Ends isLast data memory fun ending =>
        holds (ending.behind [.request request] false)
  | sendReply reply next, data, memory, holds =>
    next.Ends isLast data memory fun ending => holds (ending.behind [.response reply] false)
  | note _ next, data, memory, holds => next.Ends isLast data memory holds
  | consult next, data, memory, holds => (next memory).Ends isLast data memory holds
  | remember memory next, data, _, holds => next.Ends isLast data memory holds

section Stock

variable {isLast : Bool} {data : StageData T.Value} {memory : T.Memory} {holds : Ending T → Prop}

/-- The end of a callback that does nothing. -/
@[simp] theorem ends_nothing : (Callback.nothing (T := T)).Ends isLast data memory holds ↔
    holds ⟨[], false, .ok (), data, memory⟩ := Iff.rfl

/-- The end of a callback that sends a reply. -/
@[simp] theorem ends_send (reply : Reply T.Response) :
    (Callback.send (T := T) reply).Ends isLast data memory holds ↔
      holds ⟨[.response reply], false, .ok (), data, memory⟩ := Iff.rfl

/-- The end of a callback that forwards a request. -/
@[simp] theorem ends_forwardRequest (request : T.Request) :
    (Callback.forwardRequest (T := T) request).Ends false data memory holds ↔
      holds ⟨[.request request], false, .ok (), data, memory⟩ := Iff.rfl

/-- At the last stage it fails. -/
@[simp] theorem ends_forwardRequest_of_last (request : T.Request) :
    (Callback.forwardRequest (T := T) request).Ends true data memory holds ↔
      ∀ error : SendError, holds ⟨[], true, .error error.toFailure, data, memory⟩ := Iff.rfl

/-- Items are sent before what comes behind them. -/
@[simp] theorem ends_sendItems (items : List T.Response) {next : Callback T Unit} :
    (Callback.sendItems items next).Ends isLast data memory holds ↔
      next.Ends isLast data memory fun ending =>
        holds (ending.behind (items.map fun item => .response (.item item)) false) := by
  induction items generalizing holds with
  | nil => simp [sendItems]
  | cons item rest ih =>
    show (sendItems rest next).Ends isLast data memory _ ↔ _
    rw [ih]
    simp only [Ending.behind_behind]
    rfl

end Stock

/-- **What always holds if something else does** holds at the end if that does. -/
theorem Ends.imp {isLast : Bool} {callback : Callback T Unit} {data : StageData T.Value}
    {memory : T.Memory} {holds later : Ending T → Prop}
    (implies : ∀ ending, holds ending → later ending)
    (ends : callback.Ends isLast data memory holds) : callback.Ends isLast data memory later := by
  induction callback generalizing data memory holds later with
  | done result => exact implies _ ends
  | fail failure => exact implies _ ends
  | pause next ih => exact ih implies ends
  | look next ih => exact fun view isData => ih view implies (ends view isData)
  | keep data next ih => exact ih implies ends
  | sendRequest request next ih =>
    cases isLast with
    | true => exact fun error => ih _ (fun ending => implies _) (ends error)
    | false => exact ih _ (fun ending => implies _) ends
  | sendReply reply next ih => exact ih (fun ending => implies _) ends
  | note entry next ih => exact ih implies ends
  | consult next ih => exact ih memory implies ends
  | remember memory next ih => exact ih implies ends

/-! ## (2) Polls -/

/-- **A poll that nears an end**: a callback that has ended with it has come to the end, counting in
what it has done in the poll, and one that pauses still comes to it. -/
structure Nears (isLast : Bool) (holds : Ending T → Prop) (polled : Status T Unit × Scene T)
    (past acts : List (Entry T)) : Prop where
  past : polled.2.past = acts ++ past
  finished : ∀ result, polled.1 = .finished result →
    holds ⟨Journal.sent acts, Journal.isRefused acts, result, polled.2.stage.data,
      polled.2.memory⟩
  waiting : ∀ rest, polled.1 = .waiting rest →
    rest.Ends isLast polled.2.stage.data polled.2.memory fun ending =>
      holds (ending.behind (Journal.sent acts) (Journal.isRefused acts))

/-- What is done before the rest of a poll stands below what the rest adds to the journal. -/
theorem Nears.after {isLast : Bool} {holds : Ending T → Prop} {polled : Status T Unit × Scene T}
    {past between acts early : List (Entry T)} {sent : List (Outgoing T)} {isRefused : Bool}
    (nears : Nears isLast (fun ending => holds (ending.behind sent isRefused)) polled between acts)
    (grown : between = early ++ past) (isSent : Journal.sent early = sent)
    (refused : Journal.isRefused early = isRefused) :
    Nears isLast holds polled past (acts ++ early) := by
  constructor
  · rw [nears.past, grown, List.append_assoc]
  · intro result finished
    rw [Journal.sent_append, Journal.isRefused_append, isSent, refused, Bool.or_comm]
    exact nears.finished result finished
  · intro rest waiting
    have ends := nears.waiting rest waiting
    simp only [Ending.behind_behind] at ends
    rw [Journal.sent_append, Journal.isRefused_append, isSent, refused, Bool.or_comm]
    exact ends

/-- What a stage keeps does not change when it sends a reply, nor does its place. -/
theorem keeps_sendReply (scene : Scene T) (reply : Reply T.Response) :
    (scene.sendReply reply).stage.isLast = scene.stage.isLast ∧
    (scene.sendReply reply).stage.data = scene.stage.data := by
  have acted : (scene.sendReply reply).stage =
      scene.stage.acted scene.stage.data [.response reply] false :=
    scene.stage.sendReply_eq_acted reply
  rw [acted]
  exact ⟨rfl, rfl⟩

/-- Nor when it sends a request. -/
theorem keeps_sendRequest (scene : Scene T) (request : T.Request) :
    (scene.sendRequest request).2.stage.isLast = scene.stage.isLast ∧
    (scene.sendRequest request).2.stage.data = scene.stage.data ∧
    (scene.sendRequest request).2.memory = scene.memory := by
  have sent : (scene.sendRequest request).2.stage = (scene.stage.sendRequest request).2 := rfl
  rw [sent, Stage.sendRequest]
  split <;> exact ⟨rfl, rfl, rfl⟩

/-- **A poll of a callback nears its end.** -/
theorem nears_poll {callback : Callback T Unit} {holds : Ending T → Prop} (scene : Scene T)
    (ends : callback.Ends scene.stage.isLast scene.stage.data scene.memory holds) :
    ∃ acts, Nears scene.stage.isLast holds (callback.poll scene) scene.past acts := by
  induction callback generalizing scene holds with
  | done result =>
    refine ⟨[], rfl, ?_, fun rest waiting => by cases waiting⟩
    rintro _ ⟨rfl⟩
    exact ends
  | fail failure =>
    refine ⟨[], rfl, ?_, fun rest waiting => by cases waiting⟩
    rintro _ ⟨rfl⟩
    exact ends
  | pause next =>
    refine ⟨[.paused scene.stage.index], rfl, fun other finished => (by cases finished), ?_⟩
    rintro _ ⟨rfl⟩
    show next.Ends _ scene.stage.data scene.memory fun ending => holds (ending.behind [] false)
    simp only [Ending.behind_nil]
    exact ends
  | look next ih => exact ih _ scene (ends scene.stage.view rfl)
  | keep data next ih => exact ih { scene with stage := { scene.stage with data } } ends
  | sendRequest request next ih =>
    obtain ⟨isLast, data, memory⟩ := keeps_sendRequest scene request
    cases last : scene.stage.isLast with
    | true =>
      obtain ⟨refused, acted⟩ := Scene.Acted.sendRequest_of_isLast last request
      have polled : (sendRequest request next).poll scene =
          (next (.error (.noDownstream scene.stage.index))).poll (scene.sendRequest request).2 := by
        rw [← refused]
        rfl
      rw [last, Ends, if_pos rfl] at ends
      obtain ⟨acts, nears⟩ := ih _ (scene.sendRequest request).2 (by
        rw [isLast, data, memory, last]
        exact ends (.noDownstream scene.stage.index))
      rw [isLast, last] at nears
      exact ⟨acts ++ _, polled ▸ nears.after acted.past rfl rfl⟩
    | false =>
      obtain ⟨accepted, acted⟩ := Scene.Acted.sendRequest_of_not_isLast last request
      have polled : (sendRequest request next).poll scene =
          (next (.ok ())).poll (scene.sendRequest request).2 := by
        rw [← accepted]
        rfl
      rw [last, Ends, if_neg Bool.false_ne_true] at ends
      obtain ⟨acts, nears⟩ := ih _ (scene.sendRequest request).2 (by
        rw [isLast, data, memory, last]
        exact ends)
      rw [isLast, last] at nears
      exact ⟨acts ++ _, polled ▸ nears.after acted.past rfl rfl⟩
  | sendReply reply next ih =>
    obtain ⟨isLast, data⟩ := keeps_sendReply scene reply
    obtain ⟨sending, acted, isSent, notRefused⟩ := Scene.Acted.sendReply scene reply
    obtain ⟨acts, nears⟩ := ih (scene.sendReply reply) (by
      rw [isLast, data]
      exact ends)
    rw [isLast] at nears
    exact ⟨acts ++ sending, nears.after acted.past isSent notRefused⟩
  | note entry next ih =>
    obtain ⟨acts, nears⟩ := ih (scene.log (.noted scene.stage.index entry)) ends
    have later : Nears scene.stage.isLast (fun ending => holds (ending.behind [] false))
        ((note entry next).poll scene) (.noted scene.stage.index entry :: scene.past) acts := by
      simp only [Ending.behind_nil]
      exact nears
    exact ⟨acts ++ [.noted scene.stage.index entry], later.after rfl rfl rfl⟩
  | consult next ih => exact ih _ scene ends
  | remember memory next ih => exact ih { scene with memory } ends

end Callback

end Relay
