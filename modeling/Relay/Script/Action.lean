import Relay.Processor
import Relay.Script.Data
import Relay.Script.Template

/-!
# Scripts

Callbacks written down as lists of actions. A script knows its message and a scratch text, which
holds the last answer it got from the data of its stage; each action notes down that it was done,
and what came of it.
-/

namespace Relay.Script

/-! ## (1) Actions -/

/-- **What a script notes down.** -/
inductive Note where
  /-- An action was done, with its result if it has one. -/
  | done (action : String) (result : Option Json)
  /-- A call was recorded. -/
  | recorded (record : Processor.CallRecord)

/-- **The traffic of scripts**: texts in both directions. -/
@[reducible] def traffic : Traffic where
  Request := String
  Response := String
  Kind := Kind
  Value := Value
  Note := Note
  Memory := Unit

/-- **A condition**: whether the message is the end of the pipe, what its text is, and what the
scratch text is, as far as the condition says. -/
structure Condition where
  eop : Option Bool := none
  message : Option String := none
  scratch : Option String := none
  /-- The condition also asks for what no message and no text can be. -/
  isImpossible : Bool := false

/-- **An action.** Texts are templates. -/
inductive Action where
  | sendRequest (text : String) (ignoreError : Bool)
  | sendItem (text : String)
  | sendEop
  /-- Forwards the message, an item with another text. -/
  | sendReply (text : String)
  | fail (text : String) (explanation : Option String)
  | pause
  | look
  | metadata
  /-- Shows the stage. -/
  | display
  /-- Shows the data of the stage. -/
  | displayData
  | branch (condition : Condition) (yes no : List Action)
  | data (action : DataAction) (name : String)
  /-- An action that does not exist. -/
  | unknown

instance : Inhabited Action := ⟨.unknown⟩

/-! ## (2) Reports -/

/-- The report of a stage. -/
def reportView (view : StageView traffic) : Json :=
  .object [("index", .nat view.index), ("stage_count", .nat view.stageCount),
    ("is_first", .bool view.isFirst), ("is_last", .bool view.isLast),
    ("name", .text view.processor), ("is_eop", .bool view.eop),
    ("pending_requests", .nat view.pendingRequests),
    ("pending_responses", .nat view.pendingResponses)]

/-- The report of the metadata of a stage, in parts and as a whole. -/
def reportMetadata (metadata : Metadata) : Json :=
  .object [("map", MapInfo.record.write metadata.map),
    ("layers", .array (metadata.layers.map Layer.record.write)),
    ("service", .option Service.record.write metadata.service),
    ("all", Metadata.record.write metadata)]

/-- The report of the data of a stage. -/
def reportData (data : StageData Value) : Json :=
  .object [("len", .nat data.size), ("is_empty", .bool data.isEmpty),
    ("debug", .text data.shown.render)]

/-- The report of an attempt. -/
def reportResult : Except String Unit → Json
  | .ok () => .text "ok"
  | .error message => .object [("error", .text message)]

/-! ## (3) Meaning -/

/-- The text of a message; the end of the pipe has none. -/
def messageText? : Message traffic → Option String
  | .request text => some text
  | .response reply => reply.item?

/-- Whether a condition holds. -/
def Condition.holds (condition : Condition) (message : Option String) (scratch : String) : Bool :=
  !condition.isImpossible && condition.eop.all (· == message.isNone) &&
    condition.message.all (some · == message) && condition.scratch.all (· == scratch)

/-- What the templates of a script are filled with. -/
def filling (message : Message traffic) (scratch : String) (view : StageView traffic) : Filling :=
  ⟨(messageText? message).getD "", scratch, view.processor, view.index⟩

/-- The reply with which a message is forwarded under another text. -/
def replyWith (text : String) : Message traffic → Reply String
  | .response .eop => .eop
  | _ => .item text

/-- The note of an action. -/
def noteDone (action : String) (result : Option Json := none) : Callback traffic Unit :=
  Callback.write (.done action result)

mutual

/-- **What an action does**; the result is the scratch text after it. -/
def Action.run (message : Message traffic) (scratch : String) :
    Action → Callback traffic String
  | .sendRequest text ignoreError =>
    .look fun view =>
      .sendRequest ((filling message scratch view).apply text) fun
        | .ok () => (noteDone "send_request" (reportResult (.ok ()))).bind fun _ => .done scratch
        | .error error =>
          (noteDone "send_request" (reportResult (.error error.message))).bind fun _ =>
            if ignoreError then .done scratch else .fail error.toFailure
  | .sendItem text =>
    .look fun view =>
      .sendReply (.item ((filling message scratch view).apply text)) <|
        (noteDone "send_item").bind fun _ => .done scratch
  | .sendEop => .sendReply .eop <| (noteDone "send_eop").bind fun _ => .done scratch
  | .sendReply text =>
    .look fun view =>
      .sendReply (replyWith ((filling message scratch view).apply text) message) <|
        (noteDone "send_response").bind fun _ => .done scratch
  | .fail text explanation =>
    .look fun view =>
      let filled := (filling message scratch view).apply
      let failure : Failure := ⟨filled text, []⟩
      (noteDone "fail").bind fun _ =>
        .fail (match explanation with
          | some explanation => failure.within (filled explanation)
          | none => failure)
  | .pause => .pause <| (noteDone "yield").bind fun _ => .done scratch
  | .look => .look fun view => (noteDone "look" (reportView view)).bind fun _ => .done scratch
  | .metadata =>
    .look fun view =>
      (noteDone "meta" (reportMetadata view.metadata)).bind fun _ => .done scratch
  | .display =>
    .look fun view =>
      (noteDone "debug" (some (.text view.shown.render))).bind fun _ => .done scratch
  | .displayData =>
    .look fun view => (noteDone "data" (reportData view.data)).bind fun _ => .done scratch
  | .branch condition yes no =>
    if condition.holds (messageText? message) scratch then runAll message scratch yes
    else runAll message scratch no
  | .data action name =>
    .look fun view =>
      let filled := action.mapTexts (filling message scratch view).apply
      let (answer, data) := filled.apply view.data
      .keep data <| (noteDone name (some answer)).bind fun _ => .done (answerText answer)
  | .unknown => .fail ⟨"bad action", []⟩

/-- **What a script does**, one action after the other. -/
def runAll (message : Message traffic) (scratch : String) :
    List Action → Callback traffic String
  | [] => .done scratch
  | action :: rest => (action.run message scratch).bind fun scratch => runAll message scratch rest

end

/-- **The callback of a script** for a message. -/
def callback (actions : List Action) (message : Message traffic) : Callback traffic Unit :=
  (runAll message "" actions).bind fun _ => Callback.nothing

end Relay.Script
