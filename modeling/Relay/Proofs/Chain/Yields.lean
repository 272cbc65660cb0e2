import Relay.Proofs.Run.Orderly
import Relay.Proofs.Waking

/-!
# Processors that answer as told

A callback yields some messages if it sends exactly these, in order, and ends well, whatever it
sees, keeps, notes down and remembers, and however often it pauses. Where all callbacks of a job
yield what a table tells of the stage and the message, every turn of a run sends what the table
tells, as soon as it has ended.

* `Callback.Yields` says what a callback yields, and `Callback.yielded_poll` what a poll makes of
  it.
* `Job.Answers` says that the processors of a job answer as a table tells.
* `Run.AsTold` is the invariant, and `Run.asTold_after` says that it holds of every state.
-/

namespace Relay

variable {T : Traffic} {η : Type} {α : Type}

/-! ## (1) What callbacks yield -/

namespace Callback

/-- **A callback that yields some messages**: whatever it sees, it sends these, and ends well. -/
def Yields : Callback T α → List (Outgoing T) → Prop
  | done _, sent => sent = []
  | fail _, _ => False
  | pause next, sent => next.Yields sent
  | look next, sent => ∀ view, (next view).Yields sent
  | keep _ next, sent => next.Yields sent
  | sendRequest request next, sent =>
    ∃ rest, sent = .request request :: rest ∧ (next (.ok ())).Yields rest
  | sendReply reply next, sent => ∃ rest, sent = .response reply :: rest ∧ next.Yields rest
  | note _ next, sent => next.Yields sent
  | consult next, sent => ∀ memory, (next memory).Yields sent
  | remember _ next, sent => next.Yields sent

/-- A callback that sends a reply and nothing else. -/
theorem yields_send (reply : Reply T.Response) :
    (Callback.send (T := T) reply).Yields [.response reply] := ⟨[], rfl, rfl⟩

/-- A callback that sends a request and nothing else. -/
theorem yields_forwardRequest (request : T.Request) :
    (Callback.forwardRequest (T := T) request).Yields [.request request] := ⟨[], rfl, rfl⟩

/-- Items are yielded before what comes behind them. -/
theorem yields_sendItems (items : List T.Response) {next : Callback T α} {rest : List (Outgoing T)}
    (yields : next.Yields rest) :
    (Callback.sendItems items next).Yields
      (items.map (fun item => .response (.item item)) ++ rest) := by
  induction items with
  | nil => exact yields
  | cons item items ih => exact ⟨_, rfl, ih⟩

/-- **What a poll makes of a callback that yields some messages**: it has sent the first of them,
and has ended well if there are no others, or has left a callback that yields the others. -/
structure Yielded (polled : Status T α × Scene T) (past acts : List (Entry T))
    (others : List (Outgoing T)) : Prop where
  past : polled.2.past = acts ++ past
  notRefused : Journal.isRefused acts = false
  status : (∃ result, polled.1 = .finished (.ok result) ∧ others = []) ∨
    ∃ rest, polled.1 = .waiting rest ∧ rest.Yields others

/-- What is done before the rest of a poll stands below what the rest adds to the journal. -/
theorem Yielded.after {polled : Status T α × Scene T} {past between acts early : List (Entry T)}
    {others sent rest : List (Outgoing T)} (yielded : Yielded polled between acts others)
    (split : rest = Journal.sent acts ++ others) (grown : between = early ++ past)
    (isSent : Journal.sent early = sent) (notRefused : Journal.isRefused early = false) :
    ∃ acts others, Yielded polled past acts others ∧
      sent ++ rest = Journal.sent acts ++ others := by
  refine ⟨acts ++ early, others, ⟨?_, ?_, yielded.status⟩, ?_⟩
  · rw [yielded.past, grown, List.append_assoc]
  · rw [Journal.isRefused_append, notRefused, yielded.notRefused, Bool.or_false]
  · rw [Journal.sent_append, isSent, split, List.append_assoc]

/-- **A poll of a callback that yields some messages.** A request must be possible. -/
theorem yielded_poll {callback : Callback T α} {sent : List (Outgoing T)}
    (yields : callback.Yields sent) (scene : Scene T)
    (possible : scene.stage.isLast = true → ∀ message ∈ sent, message.request? = none) :
    ∃ acts others, Yielded (callback.poll scene) scene.past acts others ∧
      sent = Journal.sent acts ++ others := by
  induction callback generalizing scene sent with
  | done result => exact ⟨[], [], ⟨rfl, rfl, .inl ⟨result, rfl, rfl⟩⟩, yields⟩
  | fail _ => exact yields.elim
  | pause next =>
    exact ⟨[.paused scene.stage.index], sent, ⟨rfl, rfl, .inr ⟨next, rfl, yields⟩⟩, rfl⟩
  | look _ ih => exact ih _ (yields _) scene possible
  | keep _ _ ih => exact ih yields _ possible
  | sendRequest request next ih =>
    obtain ⟨rest, rfl, yieldsRest⟩ := yields
    -- The last stage would be refused the request.
    have notLast : scene.stage.isLast = false := by
      cases last : scene.stage.isLast with
      | false => rfl
      | true => cases possible last _ List.mem_cons_self
    obtain ⟨accepted, acted⟩ := Scene.Acted.sendRequest_of_not_isLast notLast request
    have stays : (scene.sendRequest request).2.stage.isLast = false := by
      rw [acted.stage]
      exact notLast
    obtain ⟨acts, others, yielded, split⟩ := ih (.ok ()) yieldsRest
      (scene.sendRequest request).2 fun last => by cases stays.symm.trans last
    have polled : (sendRequest request next).poll scene =
        (next (.ok ())).poll (scene.sendRequest request).2 := by
      rw [← accepted]
      rfl
    rw [polled]
    exact yielded.after split acted.past rfl rfl
  | sendReply reply _ ih =>
    obtain ⟨rest, rfl, yieldsRest⟩ := yields
    obtain ⟨sending, acted, isSent, notRefused⟩ := Scene.Acted.sendReply scene reply
    have stays : (scene.sendReply reply).stage.isLast = scene.stage.isLast := by
      rw [acted.stage]
      rfl
    obtain ⟨acts, others, yielded, split⟩ := ih yieldsRest (scene.sendReply reply)
      fun last message member =>
        possible (stays ▸ last) message (List.mem_cons_of_mem _ member)
    exact yielded.after split acted.past isSent notRefused
  | note entry _ ih =>
    obtain ⟨acts, others, yielded, split⟩ :=
      ih yields (scene.log (.noted scene.stage.index entry)) possible
    have grown : (scene.log (.noted scene.stage.index entry)).past =
        [.noted scene.stage.index entry] ++ scene.past := rfl
    exact yielded.after split grown rfl rfl
  | consult _ ih => exact ih _ (yields _) scene possible
  | remember _ _ ih => exact ih yields _ possible

end Callback

/-! ## (2) Jobs whose processors answer as told -/

/-- **A job whose processors answer as a table tells** that has an answer for each stage and each
message that can come there. No reply comes to the last stage, which can send no request either. -/
structure Job.Answers (job : Job T η) (table : Nat → Message T → List (Outgoing T)) : Prop where
  yields : ∀ (slot : Slot) (processor : Processor T) (message : Message T),
    job.pipeline.processor? slot.stage = some processor → message.kind = slot.kind →
      slot ≠ ⟨job.pipeline.size - 1, .response⟩ →
        (processor.handle message).Yields (table slot.stage message)
  replies : ∀ message, ∀ sent ∈ table (job.pipeline.size - 1) message, sent.request? = none

/-- No reply comes to the last stage, as no stage behind it could have sent one. -/
theorem Turn.AllDue.slot_ne_last {job : Job T η} {turns : List (Turn T)} (due : AllDue job turns)
    {turn : Turn T} (member : turn ∈ turns) :
    turn.call.slot ≠ ⟨job.pipeline.size - 1, .response⟩ := by
  intro isLast
  obtain ⟨before, behind, split⟩ := List.append_of_mem member
  obtain ⟨sender, isEarlier, -, stage, -⟩ :=
    (due before turn behind split).exists_replier (congrArg Slot.kind isLast)
  obtain ⟨first, second, parts⟩ := List.append_of_mem isEarlier
  have within := (due first sender (second ++ turn :: behind) (by simp [split, parts])).within
  have place : turn.call.stage = job.pipeline.size - 1 := congrArg Slot.stage isLast
  omega

namespace Run

variable {job : Job T η} {run next : Run T η} {table : Nat → Message T → List (Outgoing T)}

/-- **A run whose turns send what a table tells.** -/
structure AsTold (table : Nat → Message T → List (Outgoing T)) (run : Run T η) : Prop where
  notRefused : ∀ turn ∈ Turn.ofPast run.past, turn.isRefused = false
  /-- A turn that has ended has ended well, and has sent what is told of its call. -/
  ended : ∀ turn ∈ Turn.ofPast run.past, ∀ result, turn.result = some result →
    result = .ok () ∧ turn.sent = table turn.call.stage turn.call.message
  /-- The callback in flight yields what its turn has still to send. -/
  underWay : ∀ flight, run.flight = some flight → ∀ turn ∈ (Turn.ofPast run.past).head?,
    ∃ others, flight.callback.Yields others ∧
      table turn.call.stage turn.call.message = turn.sent ++ others

/-- Where nothing happens to the turns and no callback is started, they are as told. -/
theorem AsTold.of_idle (told : AsTold table run) (idle : next.flight = none)
    (turns : Turn.ofPast next.past = Turn.ofPast run.past) : AsTold table next where
  notRefused := turns ▸ told.notRefused
  ended := turns ▸ told.ended
  underWay := by
    intro flight isFlight
    cases idle.symm.trans isFlight

/-- **Where only the latest turn is new or goes on**, that one has to be as told. -/
theorem AsTold.of_latest (told : AsTold table run) {late : Turn T} {earlier : List (Turn T)}
    (turns : Turn.ofPast next.past = late :: earlier)
    (wereThere : ∀ turn ∈ earlier, turn ∈ Turn.ofPast run.past)
    (notRefused : late.isRefused = false)
    (ended : ∀ result, late.result = some result →
      result = .ok () ∧ late.sent = table late.call.stage late.call.message)
    (underWay : ∀ flight, next.flight = some flight → ∃ others, flight.callback.Yields others ∧
      table late.call.stage late.call.message = late.sent ++ others) : AsTold table next := by
  constructor
  case notRefused =>
    intro turn member
    rw [turns] at member
    rcases List.mem_cons.mp member with rfl | isEarlier
    · exact notRefused
    · exact told.notRefused turn (wereThere turn isEarlier)
  case ended =>
    intro turn member
    rw [turns] at member
    rcases List.mem_cons.mp member with rfl | isEarlier
    · exact ended
    · exact told.ended turn (wereThere turn isEarlier)
  case underWay =>
    intro flight isFlight turn member
    rw [turns] at member
    obtain rfl := Option.some.inj member
    exact underWay flight isFlight

/-- **A callback that is started** has everything still to send. -/
theorem AsTold.opened (told : AsTold table run) (answers : job.Answers table) {slot : Slot}
    {processor : Processor T} {message : Message T} {rest : Stage T}
    (hasProcessor : job.pipeline.processor? slot.stage = some processor)
    (kind : message.kind = slot.kind) (comes : slot ≠ ⟨job.pipeline.size - 1, .response⟩) :
    AsTold table (run.opened slot processor message rest) := by
  have turns : Turn.ofPast (run.opened slot processor message rest).past =
      { call := rest.callFor slot.stage message } :: Turn.ofPast run.past := rfl
  refine told.of_latest turns (fun _ member => member) rfl (fun _ ended => by cases ended) ?_
  rintro flight ⟨rfl⟩
  exact ⟨_, answers.yields slot processor message hasProcessor kind comes, rfl⟩

/-- What the last stage has still to send are no requests. -/
theorem request?_of_answers (answers : job.Answers table) (sound : Sound job run)
    {flight : Flight T} {stage : Stage T} {turn : Turn T} {earlier : List (Turn T)}
    {others : List (Outgoing T)}
    (engaged : run.Engaged job flight stage turn earlier)
    (split : table turn.call.stage turn.call.message = turn.sent ++ others)
    (last : stage.isLast = true) : ∀ message ∈ others, message.request? = none := by
  intro message member
  have place : turn.call.stage = job.pipeline.size - 1 := by
    have isLast : flight.slot.stage + 1 = job.pipeline.size := by
      simpa [sound.isLast_eq engaged.found] using last
    have here := engaged.place
    omega
  exact answers.replies turn.call.message message
    (place ▸ split ▸ List.mem_append_right _ member)

/-- **A callback that is polled** sends more of what is told, and the rest of it has the rest still
to send. -/
theorem AsTold.polled (told : AsTold table run) (answers : job.Answers table)
    (sound : Sound job run) (move : Move job run next) {flight : Flight T}
    (isFlight : run.flight = some flight) : AsTold table next := by
  obtain ⟨stage, turn, late, earlier, acts, acted⟩ := exists_late sound move isFlight
  have turns := acted.engaged.turns
  have isTurn : turn ∈ Turn.ofPast run.past := turns ▸ List.mem_cons_self
  obtain ⟨others, yields, split⟩ := told.underWay flight isFlight turn (by rw [turns]; rfl)
  obtain ⟨added, left, yielded, parts⟩ := Callback.yielded_poll yields
    ⟨stage, run.memory, run.past⟩ (request?_of_answers answers sound acted.engaged split)
  obtain rfl : added = acts :=
    List.append_cancel_right (yielded.past.symm.trans acted.acted.past)
  have sent : table late.call.stage late.call.message = late.sent ++ left := by
    rw [acted.call, split, parts, acted.sent, List.append_assoc]
  refine told.of_latest acted.turns ?wereThere ?notRefused ?ended ?underWay
  case wereThere =>
    intro other member
    rw [turns]
    exact List.mem_cons_of_mem turn member
  case notRefused =>
    rw [acted.isRefused, told.notRefused turn isTurn, yielded.notRefused, Bool.or_false]
  case ended =>
    intro result ended
    have finished := acted.result result ended
    rcases yielded.status with ⟨ending, status, rfl⟩ | ⟨rest, status, -⟩
    · rw [status] at finished
      cases finished
      exact ⟨rfl, by rw [sent, List.append_nil]⟩
    · cases status.symm.trans finished
  case underWay =>
    intro later isLater
    obtain ⟨-, waiting⟩ := acted.waiting later isLater
    rcases yielded.status with ⟨ending, status, -⟩ | ⟨rest, status, yieldsRest⟩
    · cases status.symm.trans waiting
    · obtain rfl := Callback.Status.waiting.inj (status.symm.trans waiting)
      exact ⟨left, yieldsRest, sent⟩

/-- **In every state that a run comes to**, its turns send what is told. -/
theorem asTold_after (answers : job.Answers table) (received : η) (memory : T.Memory) (n : Nat) :
    AsTold table ((seed job received memory).after job n) := by
  induction n with
  | zero =>
    refine ⟨fun _ member => ?_, fun _ member => ?_, fun _ isFlight => by cases isFlight⟩
    · cases member
    · cases member
  | succ n ih =>
    have sound := sound_after job received memory n
    have move := move_step sound
    have awake : AsTold table ((seed job received memory).after job n).awake :=
      ⟨ih.notRefused, ih.ended, ih.underWay⟩
    cases isFlight : ((seed job received memory).after job n).flight with
    | some flight => exact awake.polled answers sound.awake move isFlight
    | none =>
      rcases opened_of_move move isFlight with
        ⟨idle, -, turns⟩ | ⟨slot, stage, processor, message, rest, -, hasProcessor, popped, opened⟩
      · exact awake.of_idle idle turns
      · have kind := Stage.kind_of_pop? popped
        have comes : slot ≠ ⟨job.pipeline.size - 1, .response⟩ := by
          have due := callsDue_after job received memory (n + 1)
          rw [after, opened] at due
          have isLatest : ({ call := rest.callFor slot.stage message } : Turn T) ∈
              (((seed job received memory).after job n).awake.opened slot processor message
                rest).turns := List.mem_reverse.mpr List.mem_cons_self
          have isSlot : (rest.callFor slot.stage message).slot = slot :=
            congrArg (Slot.mk slot.stage) kind
          rw [← isSlot]
          exact due.slot_ne_last isLatest
        rw [after, opened]
        exact awake.opened answers hasProcessor kind comes

end Run

end Relay
